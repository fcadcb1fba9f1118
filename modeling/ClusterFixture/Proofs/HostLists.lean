/-
The list of hosts that a file is copied to.

The list is written, the copying command runs, and the list is taken away, whatever became of the
command. It names the addresses of the primaries in the order of their bytes, each once. What the
copying needs of the files is room for the list in a directory whose names can be changed; what it
needs of the command is that it leaves that directory and the list alone.
-/

import ClusterFixture.Operation.Hosts
import ClusterFixture.Proofs.Comparison
import ClusterFixture.Proofs.Encoding
import ClusterFixture.Proofs.Files
import ClusterFixture.Proofs.Lines
import ClusterFixture.Proofs.PrimaryStatements

set_option autoImplicit false

namespace ClusterFixture.Op

open ClusterFixture.Cluster (IsRowOf Segment Unreadable)
open ClusterFixture.FileTree (Holds Slot)

variable {σ : Type}

/-! ## Texts in ascending order -/

theorem pairwise_lt_eraseDups {texts : List String} (h : texts.Pairwise (· ≤ ·)) :
    texts.eraseDups.Pairwise (· < ·) := by
  match texts with
  | [] => exact .nil
  | a :: rest =>
    obtain ⟨hfirst, hrest⟩ := List.pairwise_cons.mp h
    rw [List.eraseDups_cons, List.pairwise_cons]
    refine ⟨fun b hb => ?_, pairwise_lt_eraseDups (hrest.sublist List.filter_sublist)⟩
    obtain ⟨hmem, hother⟩ := List.mem_filter.mp (List.mem_eraseDups.mp hb)
    have hne : b ≠ a := by simpa using hother
    exact lt_of_le_of_ne (hfirst b hmem) hne.symm
termination_by texts.length
decreasing_by exact Nat.lt_succ_of_le (List.length_filter_le _ _)

/-- Each text stands once, in ascending order. -/
theorem pairwise_sortedUnique (texts : List String) : (sortedUnique texts).Pairwise (· < ·) := by
  have htrans : ∀ a b c : String, decide (a ≤ b) = true → decide (b ≤ c) = true →
      decide (a ≤ c) = true := by
    intro a b c hab hbc
    exact decide_eq_true (le_trans (of_decide_eq_true hab) (of_decide_eq_true hbc))
  have htotal : ∀ a b : String, (decide (a ≤ b) || decide (b ≤ a)) = true := by
    intro a b
    simpa using le_total a b
  have hsorted := List.pairwise_mergeSort htrans htotal texts
  refine pairwise_lt_eraseDups (hsorted.imp fun h => ?_)
  exact of_decide_eq_true h

theorem mem_sortedUnique {text : String} {texts : List String} :
    text ∈ sortedUnique texts ↔ text ∈ texts := by
  rw [sortedUnique, List.mem_eraseDups, List.mem_mergeSort]

/-! ## The list -/

/-- The path of the list of hosts. -/
def listPath (site : Site σ) : String := Path.join site.temporary hostListName

/-- The files with a list of hosts in a directory. -/
def listed (files : FileTree) (dir : Place) (addresses : List String) (mode : Nat) : FileTree :=
  files.put (dir ++ [hostListName]) (.file (Text.utf8 (Text.endedLines addresses)) mode)

/-- There is room for the list of hosts in a directory whose names can be changed. -/
structure ListRoom (site : Site σ) (files : FileTree) (dir : Place) : Prop where
  slot : Slot files site.place (listPath site) dir hostListName
  changeable : files.canChangeNames (dir ++ [hostListName]) = true

/-- The directory and the list of hosts are left alone, and so is the way to them. -/
structure LeavesList (site : Site σ) (dir : Place) (before after : FileTree) : Prop where
  located : after.locate site.place (listPath site) = .ok (dir ++ [hostListName])
  directory : after.node? dir = before.node? dir
  list : after.node? (dir ++ [hostListName]) = before.node? (dir ++ [hostListName])

/-- Where there is room the list is written, and nothing else happens. -/
theorem went_writeList {site : Site σ} {w : World σ} {dir : Place}
    (hroom : ListRoom site w.files dir) (addresses : List String) :
    ∃ mode w', runAt (changeFiles fun files here =>
        files.write here (listPath site) (Text.utf8 (Text.endedLines addresses))) site w =
          (.ok (), w') ∧
      Went w [] (w.server, listed w.files dir addresses mode) w' := by
  obtain ⟨mode, -, hwrite⟩ := hroom.slot.write (Text.utf8 (Text.endedLines addresses))
  obtain ⟨w', hrun, hwent⟩ := went_changeFiles (fun files here =>
    files.write here (listPath site) (Text.utf8 (Text.endedLines addresses))) hwrite
  exact ⟨mode, w', hrun, hwent⟩

theorem holds_listed (files : FileTree) (dir : Place) (addresses : List String) (mode : Nat) :
    Holds (listed files dir addresses mode) (dir ++ [hostListName])
      (Text.utf8 (Text.endedLines addresses)) :=
  ⟨mode, by rw [listed, FileTree.node?_put _ (by simp), if_pos rfl]⟩

/-- A list that is left alone is still there, in a directory whose names can be changed. -/
theorem LeavesList.still {site : Site σ} {files after : FileTree} {dir : Place}
    {addresses : List String} {mode : Nat} (hroom : ListRoom site files dir)
    (h : LeavesList site dir (listed files dir addresses mode) after) :
    Holds after (dir ++ [hostListName]) (Text.utf8 (Text.endedLines addresses)) ∧
      after.canChangeNames (dir ++ [hostListName]) = true := by
  obtain ⟨listMode, hlist⟩ := holds_listed files dir addresses mode
  have hdir : after.node? dir = files.node? dir := by
    rw [h.directory, listed, FileTree.node?_put _ (by simp), if_neg (by simp)]
  refine ⟨⟨listMode, h.list.trans hlist⟩, ?_⟩
  have hchange := hroom.changeable
  rw [FileTree.canChangeNames, List.dropLast_concat] at hchange ⊢
  rw [hdir]
  exact hchange

/-- So it is taken away, and its path leads nowhere. -/
theorem went_removeList {site : Site σ} {w : World σ} {files : FileTree} {dir : Place}
    {addresses : List String} {mode : Nat} (hroom : ListRoom site files dir)
    (h : LeavesList site dir (listed files dir addresses mode) w.files) :
    (∃ w', runAt (changeFiles fun files here => files.remove here (listPath site)) site w =
        (.ok (), w') ∧
      Went w [] (w.server, w.files.erase (dir ++ [hostListName])) w') ∧
    (w.files.erase (dir ++ [hostListName])).isPresent site.place (listPath site) = .ok false := by
  obtain ⟨hholds, hchange⟩ := h.still hroom
  refine ⟨?_, FileTree.isPresent_erase h.located hholds⟩
  exact went_changeFiles (fun files here => files.remove here (listPath site))
    (FileTree.remove_eq_ok h.located hholds hchange)

/-! ## Copying -/

/-- The command that copies a file to the hosts of the list. -/
def copying (site : Site σ) (file : String) : Command :=
  commandOf site.settings "copy file" ("gpscp -f " ++ listPath site ++ " " ++ file ++ " =:" ++ file)

/-- What comes of the command in a state. -/
def copied (site : Site σ) (file : String) (state : σ × FileTree) :
    Checked CommandOutput × (σ × FileTree) :=
  (site.services.run (copying site file)).run state

/-- The fault of a copying that did not end well. -/
def copyFault (f : Fault) : Fault := .detailed .commandFailed "FAIL: gpscp" f.message

/-- Copying to the hosts with these addresses, with the list of them at a path. -/
def copyThrough (list file : String) (addresses : List String) : Op σ Unit := do
  changeFiles fun files here => files.write here list (Text.utf8 (Text.endedLines addresses))
  let c ← localCommand "copy file" ("gpscp -f " ++ list ++ " " ++ file ++ " =:" ++ file)
  let result ← attempt (run c)
  changeFiles fun files here => files.remove here list
  match result with
  | .ok _ => pure ()
  | .error f => throw (copyFault f)

/-- Copying to the hosts with these addresses. -/
def copyTo (file : String) (addresses : List String) : Op σ Unit := do
  copyThrough (listPath (← read)) file addresses

theorem copyToHosts_eq (file : String) :
    (copyToHosts file : Op σ Unit) =
      layout >>= fun l => copyTo file (sortedUnique (l.primaries.map fun s => s.address)) := rfl

/-- How the copying ends: as the command did, and with a fault of its own where that one failed. -/
def copyResult (site : Site σ) (file : String) : Checked CommandOutput → Checked Unit
  | .error f => .error (copyFault f)
  | .ok output =>
    if output.status = 0 then .ok () else .error (copyFault (output.failure (copying site file)))

theorem copyResult_eq (site : Site σ) (file : String) (started : Checked CommandOutput) :
    copyResult site file started =
      match started >>= (·.checked (copying site file)) with
      | .ok _ => .ok ()
      | .error f => .error (copyFault f) := by
  rcases started with f | output
  · rfl
  · by_cases hstatus : output.status = 0
    · have hchecked : (Except.ok output >>= (·.checked (copying site file))) = .ok output :=
        if_pos (by simpa [CommandOutput.succeeded] using hstatus)
      rw [hchecked, copyResult, if_pos hstatus]
    · have hchecked : (Except.ok output >>= (·.checked (copying site file))) =
          .error (output.failure (copying site file)) :=
        if_neg (by simpa [CommandOutput.succeeded] using hstatus)
      rw [hchecked, copyResult, if_neg hstatus]

theorem copyResult_eq_ok_iff {site : Site σ} {file : String} {started : Checked CommandOutput} :
    copyResult site file started = .ok () ↔ ∃ output, started = .ok output ∧ output.status = 0 := by
  unfold copyResult
  rcases started with f | output
  · simp
  · simp

theorem copyResult_eq_error {site : Site σ} {file : String} {started : Checked CommandOutput}
    {f : Fault}
    (h : started = .error f ∨ ∃ output, started = .ok output ∧ output.status ≠ 0 ∧
      f = output.failure (copying site file)) :
    copyResult site file started = .error (copyFault f) := by
  rcases h with rfl | ⟨output, rfl, hstatus, rfl⟩
  · rfl
  · exact if_neg hstatus

/-- Whatever becomes of the command, the list is there when it runs and gone in the end, and only
the command decides how the copying ends. -/
theorem went_copyTo (file : String) (addresses : List String) {site : Site σ} {w : World σ}
    {dir : Place} (hroom : ListRoom site w.files dir) :
    ∃ mode, ∀ started after,
      copied site file (w.server, listed w.files dir addresses mode) = (started, after) →
      LeavesList site dir (listed w.files dir addresses mode) after.2 →
      (∃ w', runAt (copyTo file addresses) site w = (copyResult site file started, w') ∧
        Went w [.run (copying site file)] (after.1, after.2.erase (dir ++ [hostListName])) w') ∧
      (after.2.erase (dir ++ [hostListName])).isPresent site.place (listPath site) = .ok false := by
  obtain ⟨mode, w₁, hwrite, hwent₁⟩ := went_writeList hroom addresses
  refine ⟨mode, fun started after hcopied hleaves => ?_⟩
  obtain ⟨w₂, hcommand, hwent₂⟩ := went_run (copying site file) site w₁
  rw [hwent₁.server, hwent₁.files, ← copied, hcopied] at hcommand hwent₂
  rw [← hwent₂.files] at hleaves
  obtain ⟨⟨w₃, hremove, hwent₃⟩, habsent⟩ := went_removeList hroom hleaves
  rw [hwent₂.server, hwent₂.files] at hwent₃
  rw [hwent₂.files] at habsent
  refine ⟨⟨w₃, ?_, (hwent₁.trans hwent₂).trans hwent₃⟩, habsent⟩
  rw [copyTo, runAt_bind_ok (runAt_read site w), copyThrough, runAt_bind_ok hwrite,
    runAt_bind_ok (runAt_localCommand _ _ site w₁), runAt_bind_ok (runAt_attempt _ site w₁),
    ← copying, hcommand, runAt_bind_ok hremove]
  -- The outcome of the command is looked at when the list is gone.
  rw [copyResult_eq]
  rcases started >>= (·.checked (copying site file)) with f | output
  · rfl
  · rfl

/-- Copying a file to the hosts asks for the configuration, and that is all where it cannot be read.
Otherwise the addresses of the primaries among its segments, in the order of their bytes and each
once, are listed with a line feed each when the copying command runs. The list is gone in the end;
the copying ends well exactly where the command ended with zero, and else with a fault that tells
that of the command. -/
theorem copyToHosts_outcome (file : String) (site : Site σ) (w : World σ) :
    let asking := Call.query .template Sql.Statement.segmentConfiguration
    let (answer, state) := askedSegments site (w.server, w.files)
    let (result, w') := runAt (copyToHosts file) site w
    (∀ f, answer = .error f → result = .error f ∧ Went w [asking] state w') ∧
      ∀ rows, answer = .ok rows →
        ((∃ row ∈ rows, Unreadable row) → (∃ f, result = .error f) ∧ Went w [asking] state w') ∧
        ((∀ row ∈ rows, ¬Unreadable row) → ∀ dir, ListRoom site state.2 dir →
          ∃ segments addresses mode,
            List.Forall₂ IsRowOf rows segments ∧
            addresses.Pairwise (fun a b => Text.utf8 a < Text.utf8 b) ∧
            (∀ address, address ∈ addresses ↔
              ∃ s ∈ segments, 0 ≤ s.content ∧ s.role = .primary ∧ s.address = address) ∧
            ∀ started after,
              copied site file (state.1, listed state.2 dir addresses mode) = (started, after) →
              LeavesList site dir (listed state.2 dir addresses mode) after.2 →
              Went w [asking, .run (copying site file)]
                  (after.1, after.2.erase (dir ++ [hostListName])) w' ∧
                w'.files.isPresent site.place (listPath site) = .ok false ∧
                (result = .ok () ↔ ∃ output, started = .ok output ∧ output.status = 0) ∧
                ∀ f, (started = .error f ∨ ∃ output, started = .ok output ∧ output.status ≠ 0 ∧
                    f = output.failure (copying site file)) →
                  result = .error (copyFault f)) := by
  intro asking
  obtain ⟨asked, hasked, hrefused, hread⟩ := runAt_layout_bind
    (fun l => copyTo file (sortedUnique (l.primaries.map fun s => s.address))) site w
  rw [← copyToHosts_eq] at hrefused hread
  rcases hanswer : askedSegments site (w.server, w.files) with ⟨answer, state⟩
  rcases hrun : runAt (copyToHosts file) site w with ⟨result, w'⟩
  rw [hanswer] at hasked hrefused hread
  rw [hrun] at hrefused hread
  refine ⟨?_, fun rows hrows => ⟨?_, ?_⟩⟩
  · intro f hf
    cases hrefused f hf
    exact ⟨rfl, hasked⟩
  · intro hbad
    obtain ⟨f, hf⟩ := (hread rows hrows).1 hbad
    cases hf
    exact ⟨⟨f, rfl⟩, hasked⟩
  · intro hgood dir hroom
    obtain ⟨l, hsegments, hcopy⟩ := (hread rows hrows).2 hgood
    rw [← hasked.files] at hroom
    obtain ⟨mode, hcopied⟩ :=
      went_copyTo file (sortedUnique (l.primaries.map fun s => s.address)) hroom
    rw [hasked.server, hasked.files] at hcopied
    refine ⟨l.segments, sortedUnique (l.primaries.map fun s => s.address), mode, hsegments,
      (pairwise_sortedUnique _).imp Text.utf8_lt, fun address => ?_,
      fun started after hstarted hleaves => ?_⟩
    · simp [mem_sortedUnique, Cluster.Layout.primaries, Segment.isPrimary, and_assoc]
    · obtain ⟨⟨w'', hrun', hwent⟩, habsent⟩ := hcopied started after hstarted hleaves
      cases hcopy.trans hrun'
      refine ⟨hasked.trans hwent, ?_, ?_, ?_⟩
      · rw [hwent.files]
        exact habsent
      · exact copyResult_eq_ok_iff
      · exact fun f hf => copyResult_eq_error hf

/-- A list is left alone where nothing happens to the files. -/
theorem ListRoom.leavesList_self {site : Site σ} {files : FileTree} {dir : Place}
    (hroom : ListRoom site files dir) (addresses : List String) (mode : Nat) :
    LeavesList site dir (listed files dir addresses mode) (listed files dir addresses mode) := by
  obtain ⟨hlegal, hfollow, -⟩ := FileTree.locate_eq_ok_iff.mp hroom.slot.located
  have hkeeps : ∀ q m, files.node? q = some (.directory m) →
      (listed files dir addresses mode).node? q = some (.directory m) :=
    fun _ _ hq => FileTree.node?_put_of_directory (by simp) hroom.slot.not_directory _ hq
  refine ⟨FileTree.locate_eq_ok_iff.mpr
    ⟨hlegal, FileTree.follow_of_directories hkeeps hfollow, fun hasks => ?_⟩, rfl, rfl⟩
  rw [hroom.slot.plain] at hasks
  cases hasks

/-- A server with three primaries, whose commands end with a status and leave the files alone. -/
def endingWith (status : Int) : Services Unit where
  query _ _ := fun state => (.ok threePrimaries, state)
  execute _ _ := fun state => (.ok (), state)
  run _ := fun state => (.ok ⟨status, "", "unreachable"⟩, state)

/-- Files with a directory for passing files, and nothing in it. -/
def emptyTemporary : FileTree := ⟨[(["tmp"], .directory newDirectoryMode)]⟩

theorem listRoom_emptyTemporary (services : Services σ) :
    ListRoom (dataSite services) emptyTemporary ["tmp"] := by
  have hpath : Path.join "/tmp" hostListName = "/tmp/copy_host_file.gpfixture" := by decide
  have hplace : Path.parts "/" = [] := by decide
  refine ⟨?_, by decide⟩
  change Slot emptyTemporary (Path.parts "/") (Path.join "/tmp" hostListName) ["tmp"] hostListName
  rw [hpath, hplace]
  exact .of_lookup (by decide) (by decide) (by decide) (by decide) (by rfl) rfl
    (.inl ⟨by decide, by decide⟩)

/-- A command that fails leaves no list behind. -/
theorem copyToHosts_failed :
    let site := dataSite (endingWith 1)
    let (result, w) := runAt (copyToHosts "/data/f") site ⟨(), emptyTemporary, [], []⟩
    result = .error (copyFault (CommandOutput.failure (copying site "/data/f")
        ⟨1, "", "unreachable"⟩)) ∧
      w.files.isPresent site.place (listPath site) = .ok false := by
  intro site
  have hgood := Cluster.Layout.not_unreadable_of_ofRows ofRows_threePrimaries
  have hroom : ListRoom site emptyTemporary ["tmp"] := listRoom_emptyTemporary _
  have houtcome := copyToHosts_outcome "/data/f" site ⟨(), emptyTemporary, [], []⟩
  rcases hrun : runAt (copyToHosts "/data/f") site ⟨(), emptyTemporary, [], []⟩ with ⟨result, w⟩
  rw [hrun] at houtcome
  obtain ⟨segments, addresses, mode, -, -, -, hcopied⟩ :=
    (houtcome.2 threePrimaries rfl).2 hgood ["tmp"] hroom
  obtain ⟨-, habsent, -, hfailed⟩ := hcopied _ _ rfl (hroom.leavesList_self addresses mode)
  exact ⟨hfailed _ (.inr ⟨_, rfl, by decide, rfl⟩), habsent⟩

end ClusterFixture.Op
