/-
Taking the reports below a directory away.

The directory is refused where its text is empty or one slash, blanks around it aside. Many more
texts lead to the root or nowhere, with more slashes, with single dots or with two dots at the root,
and none of them is refused. Any other text becomes a part of a line as it is: a blank in it or
behind it ends a word there, and the pattern of the reports is then one of another directory. For a
text of plain characters and blanks it is said exactly when neither happens.
-/

import ClusterFixture.Operation.Hosts
import ClusterFixture.Proofs.Files
import ClusterFixture.Proofs.Paths
import ClusterFixture.Proofs.RemoteCommands
import ClusterFixture.Proofs.Transfers

set_option autoImplicit false

namespace ClusterFixture

/-! ## Words and a pattern -/

namespace Shell

namespace Splitting

/-- Words that are complete stay as they are. -/
theorem complete_suffix_of_step {s s' : Splitting} {c : Char} (h : s.step c = some s') :
    s.complete <:+ s'.complete := by
  unfold step at h
  split at h <;> split_ifs at h <;> obtain rfl := Option.some.inj h <;>
    first
      | exact List.suffix_refl _
      | exact List.suffix_append _ _

theorem complete_suffix_of_scan {s s' : Splitting} {cs : List Char} (h : s.scan cs = some s') :
    s.complete <:+ s'.complete := by
  induction cs generalizing s with
  | nil =>
    obtain rfl := Option.some.inj h
    exact List.suffix_refl _
  | cons c cs ih =>
    rw [scan_cons] at h
    obtain ⟨t, hstep, hscan⟩ := Option.bind_eq_some_iff.mp h
    exact (complete_suffix_of_step hstep).trans (ih hscan)

/-- Blanks between words change nothing. -/
theorem scan_blanks {cs : List Char} (hblanks : ∀ c ∈ cs, isWordEnd c = true)
    (complete : List (List Char)) :
    scan ⟨complete, none, .bare⟩ cs = some ⟨complete, none, .bare⟩ := by
  induction cs with
  | nil => rfl
  | cons c cs ih =>
    obtain ⟨hc, hcs⟩ := List.forall_mem_cons.mp hblanks
    have hstep : step ⟨complete, none, .bare⟩ c = some ⟨complete, none, .bare⟩ := by
      simp only [step, hc, if_true]
      rfl
    rw [scan_cons, hstep]
    exact ih hcs

/-- A text with a blank behind a plain character does not end in the word that it began. -/
theorem scan_ne_of_blank {part more : List Char} {blank : Char} (hne : part ≠ [])
    (hplain : ∀ c ∈ part, isPlain c = true) (hblank : isWordEnd blank = true)
    (complete : List (List Char)) (word? : Option (List Char)) (quoting : Quoting) :
    scan ⟨complete, none, .bare⟩ (part ++ blank :: more) ≠ some ⟨complete, word?, quoting⟩ := by
  intro h
  have hstep : step ⟨complete, some part.reverse, .bare⟩ blank =
      some ⟨part.reverse :: complete, none, .bare⟩ := by
    simp only [step, hblank, if_true]
    rfl
  rw [scan_append, scan_word hne hplain, Option.bind_eq_bind, Option.bind_some, scan_cons, hstep,
    Option.bind_eq_bind, Option.bind_some] at h
  -- the part is one more complete word
  have hlength := (complete_suffix_of_scan h).length_le
  simp only [List.length_cons] at hlength
  omega

/-- A text of plain characters and blanks ends in a certain part of the word that goes on behind it
exactly if it is blanks and then that part, without another blank. -/
theorem scan_eq_part_iff {cs ending word : List Char} (hne : ending ≠ [])
    (hchars : ∀ c ∈ cs, isPlain c = true ∨ isWordEnd c = true)
    (hending : ∀ c ∈ ending, isPlain c = true) (complete : List (List Char)) :
    scan ⟨complete, none, .bare⟩ (cs ++ ending) =
        some ⟨complete, some (word ++ ending).reverse, .bare⟩ ↔
      (∃ blanks, (∀ c ∈ blanks, isWordEnd c = true) ∧ cs = blanks ++ word) ∧
        ∀ c ∈ word, isWordEnd c = false := by
  have hpart : ∀ part : List Char, (∀ c ∈ part, isPlain c = true) →
      scan ⟨complete, none, .bare⟩ (part ++ ending) =
        some ⟨complete, some (part ++ ending).reverse, .bare⟩ := fun part hplain =>
    scan_word (by simp [hne]) (List.forall_mem_append.mpr ⟨hplain, hending⟩) complete
  constructor
  · intro h
    have hsplit : cs.takeWhile isWordEnd ++ cs.dropWhile isWordEnd = cs :=
      List.takeWhile_append_dropWhile
    have hblanks : ∀ c ∈ cs.takeWhile isWordEnd, isWordEnd c = true :=
      fun c hc => List.mem_takeWhile_imp hc
    rw [← hsplit, List.append_assoc, scan_append, scan_blanks hblanks, Option.bind_eq_bind,
      Option.bind_some] at h
    have hrest : ∀ c ∈ cs.dropWhile isWordEnd, isPlain c = true ∨ isWordEnd c = true :=
      fun c hc => hchars c ((List.dropWhile_suffix _).mem hc)
    -- a blank behind the first character that is none would end a word
    rcases hfind : (cs.dropWhile isWordEnd).find? isWordEnd with _ | blank
    · have hnone : ∀ c ∈ cs.dropWhile isWordEnd, isWordEnd c = false := by
        simpa using List.find?_eq_none.mp hfind
      rw [hpart _ fun c hc => (hrest c hc).resolve_right (by simp [hnone c hc])] at h
      have hword : cs.dropWhile isWordEnd = word := by
        simpa using h
      exact ⟨⟨_, hblanks, by rw [← hword, hsplit]⟩, hword ▸ hnone⟩
    · obtain ⟨hblank, part, more, hcut, hbefore⟩ := List.find?_eq_some_iff_append.mp hfind
      have hplain : ∀ c ∈ part, isPlain c = true := fun c hc =>
        (hrest c (hcut ▸ List.mem_append_left _ hc)).resolve_right (by simpa using hbefore c hc)
      have hsome : part ≠ [] := by
        rintro rfl
        have hhead := List.head?_dropWhile_not isWordEnd cs
        rw [hcut] at hhead
        exact absurd hblank (by simpa using hhead)
      rw [hcut, List.append_assoc, List.cons_append] at h
      exact absurd h (scan_ne_of_blank hsome hplain hblank _ _ _)
  · rintro ⟨⟨blanks, hblanks, rfl⟩, hword⟩
    have hplain : ∀ c ∈ word, isPlain c = true := fun c hc =>
      (hchars c (List.mem_append_right _ hc)).resolve_right (by simp [hword c hc])
    rw [List.append_assoc, scan_append, scan_blanks hblanks]
    exact hpart word hplain

end Splitting

/-- A shell reads a line as some words and then a pattern, which is a text, the star and a text. -/
def ReadsPattern (line : String) (words : List String) (front back : String) : Prop :=
  ∃ before, line.toList = before ++ '*' :: back.toList ∧
    Splitting.scan {} before = some ⟨(words.map fun word => word.toList.reverse).reverse,
      some front.toList.reverse, .bare⟩ ∧
    ∀ c ∈ back.toList, isPlain c = true

/-- A line with one star in it is read with the words and the part of a word that stand before
it. -/
theorem readsPattern_iff {before back : String} (hback : ∀ c ∈ back.toList, isPlain c = true)
    (words : List String) (front : String) :
    ReadsPattern (before ++ "*" ++ back) words front back ↔
      Splitting.scan {} before.toList = some ⟨(words.map fun word => word.toList.reverse).reverse,
        some front.toList.reverse, .bare⟩ := by
  have hline : (before ++ "*" ++ back).toList = before.toList ++ '*' :: back.toList := by
    rw [String.toList_append, String.toList_append, List.append_assoc]
    rfl
  constructor
  · rintro ⟨start, hstart, hscan, -⟩
    rw [hline] at hstart
    rwa [(List.append_inj' hstart rfl).1]
  · intro hscan
    exact ⟨before.toList, hline, hscan, hback⟩

end Shell

namespace Op

open ClusterFixture.Shell (ReadsPattern isPlain isWordEnd)

variable {σ : Type}

/-! ## Spellings of the root -/

/-- A path means the root, or nothing at all: without single dots and repeated slashes, what is left
of an absolute path leads up from the root only, and of any other path nothing is left. -/
def IsRootOrEmpty (path : String) : Prop :=
  if Path.isAbsolute path then ∀ part ∈ Path.parts path, part = ".." else Path.parts path = []

instance (path : String) : Decidable (IsRootOrEmpty path) :=
  inferInstanceAs (Decidable
    (if Path.isAbsolute path then ∀ part ∈ Path.parts path, part = ".." else Path.parts path = []))

/-- In every file tree, such a path leads to the root if it is absolute. -/
theorem follow_of_isRootOrEmpty {path : String} (h : IsRootOrEmpty path)
    (habs : Path.isAbsolute path = true) (t : FileTree) :
    t.follow [] (Path.parts path) = .ok [] := by
  rw [IsRootOrEmpty, if_pos habs] at h
  generalize Path.parts path = parts at h ⊢
  induction parts with
  | nil => rfl
  | cons part rest ih =>
    obtain ⟨rfl, hrest⟩ := List.forall_mem_cons.mp h
    rw [← ih hrest]
    rfl

/-- The two texts that are refused mean the root or nothing. -/
theorem isRootOrEmpty_of_mem {path : String} (h : path ∈ ["", "/"]) : IsRootOrEmpty path := by
  revert path
  decide

/-! ## Refusing and removing -/

/-- The directory is refused: the fault says so, and nothing is called. -/
structure Refuses (w : World σ) (run : Checked Unit × World σ) : Prop where
  fault : ∃ f, run.1 = .error f ∧ f.kind = .invalidInput
  calls : run.2.calls = w.calls

/-- One command is run on this host, which removes the reports directly below a path. -/
def RemovesReports (path : String) (w : World σ) (run : Checked Unit × World σ) : Prop :=
  ∃ c : Command, run.2.calls = w.calls ++ [.run c] ∧ c.host = none ∧
    ReadsPattern c.line ["rm", "-f"] (path ++ "/gp_") ".rpt" ∧ path.toList.head? ≠ some '-'

/-- What the operation promises of a text for a directory. -/
structure KeepsPromise (directory : String) (w : World σ) (run : Checked Unit × World σ) :
    Prop where
  refuses : IsRootOrEmpty (Text.trim directory) → Refuses w run
  removes : ¬IsRootOrEmpty (Text.trim directory) → RemovesReports (Text.trim directory) w run

/-- The command that removes the reports below a directory. -/
def reportsCommand (s : Settings.Harness) (directory : String) : Command :=
  commandOf s "cleanup report files" ("rm -f " ++ directory ++ "/gp_*.rpt")

/-- The root and the empty text are refused in their shortest spellings. -/
theorem refuses_of_mem {directory : String} (h : Text.trim directory ∈ ["", "/"]) (site : Site σ)
    (w : World σ) : Refuses w (runAt (cleanReports directory) site w) := by
  rcases List.mem_cons.mp h with hempty | hroot
  · rw [cleanReports, hempty]
    exact ⟨⟨_, rfl, rfl⟩, rfl⟩
  · rw [cleanReports, List.mem_singleton.mp hroot]
    exact ⟨⟨_, rfl, rfl⟩, rfl⟩

/-- Any other text becomes a command. -/
theorem runAt_cleanReports {directory : String} (h : Text.trim directory ∉ ["", "/"])
    (site : Site σ) (w : World σ) :
    runAt (cleanReports directory) site w =
      runAt (discard (run (reportsCommand site.settings directory))) site w := by
  simp only [List.mem_cons, List.not_mem_nil, or_false, not_or] at h
  have hempty : ¬(Text.trim directory).isEmpty = true := by
    rw [String.isEmpty_iff]
    exact h.1
  have hroot : ¬(Text.trim directory == "/") = true := by
    rw [beq_iff_eq]
    exact h.2
  rw [cleanReports, if_neg hempty, if_neg hroot]
  exact runAt_bind_ok (runAt_localCommand _ _ site w) _

/-- It is the only call, and the operation succeeds exactly if the command ends well. -/
theorem cleanReports_of_not_mem {directory : String} (h : Text.trim directory ∉ ["", "/"])
    (site : Site σ) (w : World σ) :
    (runAt (cleanReports directory) site w).2.calls =
        w.calls ++ [.run (reportsCommand site.settings directory)] ∧
      ((runAt (cleanReports directory) site w).1 = .ok () ↔
        ∃ output, ((site.services.run (reportsCommand site.settings directory)).run
          (w.server, w.files)).1 = .ok output ∧ output.status = 0) := by
  obtain ⟨w', hwent, hcases⟩ :=
    went_run_cases (reportsCommand site.settings directory) site w
  rw [runAt_cleanReports h, runAt_discard]
  rcases hcases with ⟨f, hanswer, hrun⟩ | ⟨output, hanswer, ⟨hstatus, hrun⟩ | ⟨hstatus, hrun⟩⟩ <;>
    rw [hrun, hanswer] <;> refine ⟨hwent.calls, ?_⟩
  · simp [Except.map]
  · simp [Except.map, hstatus]
  · simp [Except.map, hstatus]

theorem refuses_iff (directory : String) (site : Site σ) (w : World σ) :
    Refuses w (runAt (cleanReports directory) site w) ↔ Text.trim directory ∈ ["", "/"] := by
  refine ⟨fun h => ?_, fun h => refuses_of_mem h site w⟩
  by_contra hother
  -- any other text is answered with a call, and a refusal makes none
  have hcalls := (cleanReports_of_not_mem hother site w).1
  rw [h.calls] at hcalls
  simp at hcalls

/-! ## What the line removes -/

/-- A text consists of characters that a shell leaves alone, and of blanks. -/
def IsSimple (text : String) : Prop := ∀ c ∈ text.toList, isPlain c = true ∨ isWordEnd c = true

instance (text : String) : Decidable (IsSimple text) :=
  decidable_of_iff ((text.toList.all fun c => isPlain c || isWordEnd c) = true)
    (by simp [IsSimple])

/-- A text for a directory can stand in a line as it is: blanks are in front of it only, and it does
not begin as an option does. -/
structure StandsInLine (directory : String) : Prop where
  begins : ∃ blanks, (∀ c ∈ blanks, isWordEnd c = true) ∧
    directory.toList = blanks ++ (Text.trim directory).toList
  whole : ∀ c ∈ (Text.trim directory).toList, isWordEnd c = false
  operand : (Text.trim directory).toList.head? ≠ some '-'

/-- The line is read as the removal of the reports below a path exactly if its text for the
directory is blanks and then the path, without another blank. -/
theorem readsPattern_reports_iff {directory : String} (hsimple : IsSimple directory)
    (s : Settings.Harness) (path : String) :
    ReadsPattern (reportsCommand s directory).line ["rm", "-f"] (path ++ "/gp_") ".rpt" ↔
      (∃ blanks, (∀ c ∈ blanks, isWordEnd c = true) ∧ directory.toList = blanks ++ path.toList) ∧
        ∀ c ∈ path.toList, isWordEnd c = false := by
  have hline : (reportsCommand s directory).line =
      ("rm -f " ++ (directory ++ "/gp_")) ++ "*" ++ ".rpt" := by
    have hend : "/gp_*.rpt" = "/gp_" ++ "*" ++ ".rpt" := rfl
    simp only [reportsCommand, commandOf, hend, String.append_assoc]
  have hopen : Shell.Splitting.scan {} "rm -f ".toList =
      some ⟨(["rm", "-f"].map fun word => word.toList.reverse).reverse, none, .bare⟩ := rfl
  rw [hline, Shell.readsPattern_iff (List.all_eq_true.mp (by decide)), String.toList_append,
    Shell.Splitting.scan_append, hopen, Option.bind_eq_bind, Option.bind_some,
    String.toList_append, String.toList_append]
  exact Shell.Splitting.scan_eq_part_iff (by decide) hsimple (List.all_eq_true.mp (by decide)) _

/-- Of the texts of plain characters and blanks that are not refused, those that can stand in a line
have the reports below their directory removed. -/
theorem removesReports_iff {directory : String} (hsimple : IsSimple directory)
    (hother : Text.trim directory ∉ ["", "/"]) (site : Site σ) (w : World σ) :
    RemovesReports (Text.trim directory) w (runAt (cleanReports directory) site w) ↔
      StandsInLine directory := by
  have hcalls := (cleanReports_of_not_mem hother site w).1
  have hreads := readsPattern_reports_iff hsimple site.settings (Text.trim directory)
  constructor
  · rintro ⟨c, hmade, -, hpattern, hoperand⟩
    rw [hcalls] at hmade
    obtain rfl : reportsCommand site.settings directory = c := by
      simpa using hmade
    obtain ⟨hbegins, hwhole⟩ := hreads.mp hpattern
    exact ⟨hbegins, hwhole, hoperand⟩
  · rintro ⟨hbegins, hwhole, hoperand⟩
    exact ⟨_, hcalls, rfl, hreads.mpr ⟨hbegins, hwhole⟩, hoperand⟩

theorem keepsPromise_iff {directory : String} (hsimple : IsSimple directory) (site : Site σ)
    (w : World σ) :
    KeepsPromise directory w (runAt (cleanReports directory) site w) ↔
      (IsRootOrEmpty (Text.trim directory) → Text.trim directory ∈ ["", "/"]) ∧
        (¬IsRootOrEmpty (Text.trim directory) → StandsInLine directory) := by
  have hremoves (hother : ¬IsRootOrEmpty (Text.trim directory)) :=
    removesReports_iff hsimple (mt isRootOrEmpty_of_mem hother) site w
  rw [← refuses_iff directory site w]
  constructor
  · intro h
    exact ⟨h.refuses, fun hother => (hremoves hother).mp (h.removes hother)⟩
  · rintro ⟨hrefuses, hstands⟩
    exact ⟨hrefuses, fun hother => (hremoves hother).mpr (hstands hother)⟩

/-- The directory is refused exactly where its text is empty or one slash, blanks around it aside;
any other text becomes one command. Of a text of plain characters and blanks, this is what the
operation promises exactly if it means the root or nothing only in these two spellings, and
otherwise can stand in a line. -/
theorem cleanReports_keepsPromise_iff (directory : String) (site : Site σ) (w : World σ) :
    let run := runAt (cleanReports directory) site w
    let path := Text.trim directory
    (Refuses w run ↔ path ∈ ["", "/"]) ∧
      (path ∉ ["", "/"] →
        run.2.calls = w.calls ++ [.run (reportsCommand site.settings directory)] ∧
          (run.1 = .ok () ↔
            ∃ output, ((site.services.run (reportsCommand site.settings directory)).run
              (w.server, w.files)).1 = .ok output ∧ output.status = 0)) ∧
      (IsSimple directory →
        (KeepsPromise directory w run ↔
          (IsRootOrEmpty path → path ∈ ["", "/"]) ∧
            (¬IsRootOrEmpty path → StandsInLine directory))) :=
  ⟨refuses_iff directory site w, fun h => cleanReports_of_not_mem h site w,
    fun hsimple => keepsPromise_iff hsimple site w⟩

/-! ## Directories of a master -/

/-- A world where nothing has been called. -/
def untouched : World Unit := ⟨(), ⟨[]⟩, [], []⟩

/-- What comes of a text for a directory on a host where commands succeed in silence. -/
def cleaned (directory : String) : Checked Unit × World Unit :=
  runAt (cleanReports directory) (dataSite (constantHost .silent)) untouched

/-- The data directory of a master has its reports removed. -/
theorem cleanReports_keepsPromise_iff_master :
    IsSimple "/data/master/gpseg-1" ∧ ¬IsRootOrEmpty (Text.trim "/data/master/gpseg-1") ∧
      RemovesReports "/data/master/gpseg-1" untouched (cleaned "/data/master/gpseg-1") := by
  have hsimple : IsSimple "/data/master/gpseg-1" := by
    decide
  have hother : ¬IsRootOrEmpty (Text.trim "/data/master/gpseg-1") := by
    decide
  have htrim : Text.trim "/data/master/gpseg-1" = "/data/master/gpseg-1" := by
    decide
  have hwhole : ("/data/master/gpseg-1".toList.all fun c => !isWordEnd c) = true := by
    decide
  have hstands : StandsInLine "/data/master/gpseg-1" := by
    refine ⟨⟨[], List.forall_mem_nil _, by rw [htrim]; rfl⟩, ?_, by decide⟩
    rw [htrim]
    exact fun c hc => (Bool.not_eq_true' _).mp (List.all_eq_true.mp hwhole c hc)
  obtain ⟨-, -, hiff⟩ := cleanReports_keepsPromise_iff "/data/master/gpseg-1"
    (dataSite (constantHost .silent)) untouched
  have hkeeps := (hiff hsimple).mpr ⟨fun hroot => absurd hroot hother, fun _ => hstands⟩
  have hremoves := hkeeps.removes hother
  rw [htrim] at hremoves
  exact ⟨hsimple, hother, hremoves⟩

/-- Two slashes lead to the root in every file tree and are not refused: the reports below the root
are removed. With a blank behind a directory, the reports below the root are removed and those below
the directory stay. -/
theorem cleanReports_of_two_slashes :
    ((∀ t : FileTree, t.locate [] "//" = .ok []) ∧ ¬KeepsPromise "//" untouched (cleaned "//") ∧
      ∃ c, (cleaned "//").2.calls = [.run c] ∧ ReadsPattern c.line ["rm", "-f"] "///gp_" ".rpt") ∧
    ¬KeepsPromise "/data " untouched (cleaned "/data ") ∧
      ∃ c, (cleaned "/data ").2.calls = [.run c] ∧
        ReadsPattern c.line ["rm", "-f", "/data"] "/gp_" ".rpt" := by
  have htwo : IsRootOrEmpty "//" := by
    decide
  have hspelled : Text.trim "//" ∉ ["", "/"] := by
    decide
  have hblank : Text.trim "/data " ∉ ["", "/"] := by
    decide
  have hreports : ∀ c ∈ ".rpt".toList, isPlain c = true := List.all_eq_true.mp (by decide)
  refine ⟨⟨fun t => ?_, fun hkeeps => ?_, _, (cleanReports_of_not_mem hspelled _ _).1, ?_⟩,
    fun hkeeps => ?_, _, (cleanReports_of_not_mem hblank _ _).1, ?_⟩
  · refine FileTree.locate_eq_ok_iff.mpr ⟨⟨by simp [String.contains_char_eq], by decide, by decide⟩,
      follow_of_isRootOrEmpty htwo (by decide) t, fun _ content mode => ?_⟩
    simp [FileTree.node?]
  · have hroot := ((keepsPromise_iff (by decide) _ _).mp hkeeps).1 (by decide)
    exact hspelled hroot
  · exact ⟨"rm -f ///gp_".toList, by decide, by decide, hreports⟩
  · have hstands := ((keepsPromise_iff (by decide) _ _).mp hkeeps).2 (by decide)
    obtain ⟨_ | ⟨c, more⟩, hblanks, hsplit⟩ := hstands.begins
    · exact absurd hsplit (by decide)
    · -- what stands in front of the directory would have to begin with its slash
      obtain ⟨rfl, -⟩ := List.cons.inj hsplit
      exact absurd (hblanks _ List.mem_cons_self) (by decide)
  · exact ⟨"rm -f /data /gp_".toList, by decide, by decide, hreports⟩

end Op

end ClusterFixture
