/-
Laying out a filespace does all or nothing.

The server lists the locations of four groups of segments, one command for each group. `Tabular` is
what a listing must be like: the command ended well, and every line that is not blank has three
columns. If all four are, the list of the filespace is written from them and each directory is made
anew; the first listing that is not ends the operation before anything is written or removed. What
commands do to the state of a host is left open, so lines are followed from state to state
(`Prints`, `afterLines`).
-/

import ClusterFixture.Operation.Filespace
import ClusterFixture.Proofs.Files
import ClusterFixture.Proofs.Running
import ClusterFixture.Proofs.Transfers
import Mathlib.Data.List.Basic

set_option autoImplicit false

namespace ClusterFixture.Op

variable {σ : Type}

/-! ## Lines, one after the other -/

/-- Lines that are run one after the other from a state can all be started, and leave these
outputs. -/
inductive Prints (site : Site σ) : σ × FileTree → List String → List CommandOutput → Prop where
  | nil (state : σ × FileTree) : Prints site state [] []
  | cons {state : σ × FileTree} {line : String} {lines : List String} {output : CommandOutput}
      {outputs : List CommandOutput} (first : (lineAnswer site line state).1 = .ok output)
      (rest : Prints site (lineAnswer site line state).2 lines outputs) :
      Prints site state (line :: lines) (output :: outputs)

/-- The state that lines leave. -/
def afterLines (site : Site σ) (state : σ × FileTree) (lines : List String) : σ × FileTree :=
  lines.foldl (fun state line => (lineAnswer site line state).2) state

@[simp] theorem afterLines_nil (site : Site σ) (state : σ × FileTree) :
    afterLines site state [] = state := rfl

@[simp] theorem afterLines_cons (site : Site σ) (state : σ × FileTree) (line : String)
    (lines : List String) :
    afterLines site state (line :: lines) = afterLines site (lineAnswer site line state).2 lines :=
  rfl

/-- The calls that lines make on this host. -/
def lineCalls (site : Site σ) (lines : List String) : List Call :=
  lines.map fun line => .run (commandOf site.settings ("run " ++ line) line)

@[simp] theorem lineCalls_nil (site : Site σ) : lineCalls site [] = [] := rfl

@[simp] theorem lineCalls_cons (site : Site σ) (line : String) (lines : List String) :
    lineCalls site (line :: lines) =
      .run (commandOf site.settings ("run " ++ line) line) :: lineCalls site lines := rfl

/-- Every command can be started, whatever the state is. -/
def Starts (site : Site σ) : Prop :=
  ∀ c state, ∃ output, ((site.services.run c).run state).1 = .ok output

/-- Commands leave the files of this host as they are. -/
def KeepsFiles (site : Site σ) : Prop :=
  ∀ c state, ((site.services.run c).run state).2.2 = state.2

theorem KeepsFiles.afterLines {site : Site σ} (h : KeepsFiles site) (state : σ × FileTree)
    (lines : List String) : (afterLines site state lines).2 = state.2 := by
  induction lines generalizing state with
  | nil => rfl
  | cons line rest ih => rw [afterLines_cons, ih, lineAnswer, h]

/-- A line that is run loosely is one call, and answers its output. -/
theorem went_runLoosely {site : Site σ} {line : String} {w : World σ} {output : CommandOutput}
    (h : (lineAnswer site line (w.server, w.files)).1 = .ok output) :
    ∃ w', runAt (runLoosely line) site w = (.ok output, w') ∧
      Went w (lineCalls site [line]) (lineAnswer site line (w.server, w.files)).2 w' :=
  ⟨_, by rw [runAt_runLoosely, h], .served w _ _⟩

/-- Runs lines one after the other, however each of them ends. -/
def runAll (lines : List String) : Op σ Unit := lines.forM fun line => discard (runLoosely line)

/-- Only a line that cannot be started keeps those behind it from being run. -/
theorem runAt_runAll_cons (line : String) (lines : List String) (site : Site σ) (w : World σ) :
    runAt (runAll (line :: lines)) site w =
      match lineAnswer site line (w.server, w.files) with
      | (.error f, state) =>
        (.error f, w.served (.run (commandOf site.settings ("run " ++ line) line)) state)
      | (.ok _, state) =>
        runAt (runAll lines) site
          (w.served (.run (commandOf site.settings ("run " ++ line) line)) state) := by
  rw [runAll, runAt_forM_cons, runAt_discard, runAt_runLoosely]
  rcases lineAnswer site line (w.server, w.files) with ⟨_ | _, _⟩ <;> rfl

/-- Lines that can all be started are all run, in their order. -/
theorem went_runAll {site : Site σ} {lines : List String} {outputs : List CommandOutput}
    {w : World σ} (h : Prints site (w.server, w.files) lines outputs) :
    ∃ w', runAt (runAll lines) site w = (.ok (), w') ∧
      Went w (lineCalls site lines) (afterLines site (w.server, w.files) lines) w' := by
  induction lines generalizing outputs w with
  | nil => exact ⟨w, rfl, .refl w⟩
  | cons line rest ih =>
    cases h with
    | cons first more =>
      have hwent := Went.served w (.run (commandOf site.settings ("run " ++ line) line))
        (lineAnswer site line (w.server, w.files)).2
      obtain ⟨w', hrest, hwent'⟩ := ih (w := w.served _ (lineAnswer site line _).2) more
      refine ⟨w', ?_, hwent.trans hwent'⟩
      rw [runAt_runAll_cons]
      rcases hanswer : lineAnswer site line (w.server, w.files) with ⟨f | output, state⟩
      · rw [hanswer] at first
        cases first
      · rw [hanswer] at hrest
        exact hrest

/-- Where every command can be started, so can lines of them. -/
theorem Starts.exists_prints {site : Site σ} (h : Starts site) (state : σ × FileTree)
    (lines : List String) : ∃ outputs, Prints site state lines outputs := by
  induction lines generalizing state with
  | nil => exact ⟨[], .nil state⟩
  | cons line rest ih =>
    obtain ⟨output, houtput⟩ := h (commandOf site.settings ("run " ++ line) line) state
    obtain ⟨outputs, hrest⟩ := ih (lineAnswer site line state).2
    exact ⟨output :: outputs, .cons houtput hrest⟩

/-! ## Listings -/

/-- The lines of an output that are not blank. -/
def listedLines (output : CommandOutput) : List String :=
  (Text.lines output.stdout).filter fun line => !(Text.trim line).isEmpty

/-- What stands between the bars of a line, without the blanks around it. -/
def columnsOf (line : String) : List String := (Text.split line '|').map Text.trim

/-- A command that ended well with a listing of three columns. -/
structure Tabular (output : CommandOutput) : Prop where
  succeeded : output.status = 0
  columns : ∀ line ∈ listedLines output, (columnsOf line).length = 3

/-- The entry of a line with three columns, in the directory of its group: host, number, and the
last part of the location, which is empty if there is none. -/
def entryOf (directory line : String) : FilespaceEntry where
  host := (columnsOf line).getD 0 ""
  dbid := (columnsOf line).getD 1 ""
  directory := directory
  path := Path.join directory ((Path.fileName? ((columnsOf line).getD 2 "")).getD "")

theorem filespaceEntry_of_columns {line : String} (h : (columnsOf line).length = 3)
    (directory : String) : filespaceEntry directory line = .ok (entryOf directory line) := by
  obtain ⟨host, dbid, location, hcolumns⟩ := List.length_eq_three.mp h
  unfold filespaceEntry entryOf
  rw [← columnsOf, hcolumns]
  rfl

theorem filespaceEntry_of_not_columns {line : String} (h : (columnsOf line).length ≠ 3)
    (directory : String) : ∃ f, filespaceEntry directory line = .error f := by
  unfold filespaceEntry
  rw [← columnsOf]
  split
  · next host dbid location hcolumns =>
    rw [hcolumns] at h
    exact absurd rfl h
  · exact ⟨_, rfl⟩

theorem mapM_entries_eq_ok (directory : String) {lines : List String}
    (h : ∀ line ∈ lines, (columnsOf line).length = 3) :
    lines.mapM (filespaceEntry directory) = .ok (lines.map (entryOf directory)) := by
  induction lines with
  | nil => rfl
  | cons line rest ih =>
    obtain ⟨hline, hrest⟩ := List.forall_mem_cons.mp h
    rw [List.mapM_cons, filespaceEntry_of_columns hline, ih hrest]
    rfl

theorem mapM_entries_eq_error (directory : String) {lines : List String}
    (h : ¬∀ line ∈ lines, (columnsOf line).length = 3) :
    ∃ f, lines.mapM (filespaceEntry directory) = .error f := by
  induction lines with
  | nil => exact absurd (by simp) h
  | cons line rest ih =>
    rw [List.mapM_cons]
    by_cases hline : (columnsOf line).length = 3
    · rw [filespaceEntry_of_columns hline]
      obtain ⟨f, hf⟩ := ih fun hrest => h (List.forall_mem_cons.mpr ⟨hline, hrest⟩)
      exact ⟨f, by rw [hf]; rfl⟩
    · obtain ⟨f, hf⟩ := filespaceEntry_of_not_columns hline directory
      exact ⟨f, by rw [hf]; rfl⟩

/-! ## The four listings -/

section

variable (host : String) (port : Nat) (user workingDirectory : String)

/-- The line that lists the locations of a group. -/
def listingLine (role : FilespaceRole) : String :=
  "psql -t -h " ++ host ++ " -p " ++ port.repr ++ " -U " ++ user
    ++ " -d template1 -c \"" ++ Sql.Statement.filespaceEntries role.code role.ofMaster ++ ";\""

/-- The entries of a group, as its listing tells them. -/
def roleEntries (role : FilespaceRole) (output : CommandOutput) : List FilespaceEntry :=
  (listedLines output).map (entryOf (Path.join workingDirectory role.directory))

variable {host port user} {site : Site σ}

theorem went_listFilespace {role : FilespaceRole} {w : World σ} {output : CommandOutput}
    (h : (lineAnswer site (listingLine host port user role) (w.server, w.files)).1 = .ok output) :
    ∃ result w', runAt (listFilespace host port user workingDirectory role) site w = (result, w') ∧
      Went w (lineCalls site [listingLine host port user role])
        (lineAnswer site (listingLine host port user role) (w.server, w.files)).2 w' ∧
      (Tabular output → result = .ok (roleEntries workingDirectory role output)) ∧
      (¬Tabular output → ∃ f, result = .error f) := by
  obtain ⟨w', hrun, hwent⟩ := went_runLoosely h
  have hopen : runAt (listFilespace host port user workingDirectory role) site w =
      runAt (do
        let output ← runLoosely (listingLine host port user role)
        if !output.succeeded then
          throw (.detailed .commandFailed "Exception from executing psql query"
            (listingLine host port user role))
        check (filespaceEntries (Path.join workingDirectory role.directory) output.stdout))
        site w := rfl
  rw [runAt_bind_ok hrun] at hopen
  by_cases hstatus : output.status = 0
  · have hsucceeded : output.succeeded = true := by simpa [CommandOutput.succeeded] using hstatus
    simp only [hsucceeded, Bool.not_true, Bool.false_eq_true, if_false, runAt_check] at hopen
    refine ⟨_, w', hopen, hwent, fun htabular => ?_,
      fun htabular => ?_⟩
    · exact mapM_entries_eq_ok _ htabular.columns
    · exact mapM_entries_eq_error _ fun hcolumns => htabular ⟨hstatus, hcolumns⟩
  · have hfailed : output.succeeded = false := by simpa [CommandOutput.succeeded] using hstatus
    simp only [hfailed, Bool.not_false, if_true] at hopen
    exact ⟨_, w', hopen, hwent,
      fun htabular => absurd htabular.succeeded hstatus, fun _ => ⟨_, rfl⟩⟩

/-- The listings of groups that are all tabular are asked for one after the other, and answered. -/
theorem went_listings_of_tabular {roles : List FilespaceRole} {outputs : List CommandOutput}
    {w : World σ}
    (hprints : Prints site (w.server, w.files) (roles.map (listingLine host port user)) outputs)
    (htabular : ∀ output ∈ outputs, Tabular output) :
    ∃ w', runAt (roles.mapM (listFilespace host port user workingDirectory)) site w =
        (.ok (List.zipWith (roleEntries workingDirectory) roles outputs), w') ∧
      Went w (lineCalls site (roles.map (listingLine host port user)))
        (afterLines site (w.server, w.files) (roles.map (listingLine host port user))) w' := by
  induction roles generalizing outputs w with
  | nil => exact ⟨w, rfl, .refl w⟩
  | cons role rest ih =>
    cases hprints with
    | cons first more =>
      obtain ⟨hfirst, hmore⟩ := List.forall_mem_cons.mp htabular
      obtain ⟨result, w₁, hrun, hwent, hok, -⟩ :=
        went_listFilespace workingDirectory first
      obtain ⟨w₂, hrest, hwent'⟩ := ih (w := w₁) (by rwa [hwent.server, hwent.files]) hmore
      refine ⟨w₂, ?_, ?_⟩
      · rw [runAt_mapM_cons, hrun, hok hfirst]
        simp only [hrest]
        rfl
      · rw [hwent.server, hwent.files] at hwent'
        exact hwent.trans hwent'

/-- The first listing that is not tabular ends them all: no other line is run behind it. -/
theorem went_listings_of_not_tabular {roles : List FilespaceRole} {outputs : List CommandOutput}
    {w : World σ}
    (hprints : Prints site (w.server, w.files) (roles.map (listingLine host port user)) outputs)
    (hbad : ¬∀ output ∈ outputs, Tabular output) :
    ∃ f w' asked, asked <+: roles.map (listingLine host port user) ∧
      runAt (roles.mapM (listFilespace host port user workingDirectory)) site w = (.error f, w') ∧
      Went w (lineCalls site asked) (afterLines site (w.server, w.files) asked) w' := by
  induction roles generalizing outputs w with
  | nil =>
    cases hprints
    exact absurd (by simp) hbad
  | cons role rest ih =>
    cases hprints with
    | @cons _ _ _ output _ first more =>
      obtain ⟨result, w₁, hrun, hwent, hok, herror⟩ :=
        went_listFilespace workingDirectory first
      by_cases htabular : Tabular output
      · obtain ⟨f, w₂, asked, hasked, hrest, hwent'⟩ := ih (w := w₁)
          (by rwa [hwent.server, hwent.files])
          fun hmore => hbad (List.forall_mem_cons.mpr ⟨htabular, hmore⟩)
        refine ⟨f, w₂, listingLine host port user role :: asked,
          (List.prefix_cons_inj _).mpr hasked, ?_, ?_⟩
        · rw [runAt_mapM_cons, hrun, hok htabular]
          simp only [hrest]
        · rw [hwent.server, hwent.files] at hwent'
          exact hwent.trans hwent'
      · obtain ⟨f, rfl⟩ := herror htabular
        refine ⟨f, w₁, [listingLine host port user role], ?_, ?_, hwent⟩
        · exact (List.prefix_cons_inj _).mpr (List.nil_prefix)
        · rw [runAt_mapM_cons, hrun]

end

/-! ## Directories -/

/-- The lines that make the directory of an entry anew on its host. -/
def remakeLines (e : FilespaceEntry) : List String :=
  ["gpssh -h " ++ e.host ++ " -e 'rm -rf " ++ e.directory ++ "'",
    "gpssh -h " ++ e.host ++ " -e 'mkdir -p " ++ e.directory ++ "'"]

/-- Making directories anew is running two lines for each entry, in their order. -/
theorem remake_eq (entries : List FilespaceEntry) :
    (entries.forM fun e => do
        removeDirectory e.host e.directory
        createDirectory e.host e.directory : Op σ Unit) =
      runAll (entries.flatMap remakeLines) := by
  induction entries with
  | nil => rfl
  | cons e rest ih =>
    rw [List.flatMap_cons]
    exact (congrArg (_ >>= fun _ => ·) ih).trans (bind_assoc ..)

/-- So it goes through however the lines end, if they can be started. -/
theorem went_remake {site : Site σ} (hstarts : Starts site) (entries : List FilespaceEntry)
    (w : World σ) :
    ∃ w', runAt (entries.forM fun e => do
          removeDirectory e.host e.directory
          createDirectory e.host e.directory) site w = (.ok (), w') ∧
      Went w (lineCalls site (entries.flatMap remakeLines))
        (afterLines site (w.server, w.files) (entries.flatMap remakeLines)) w' := by
  obtain ⟨outputs, hprints⟩ :=
    hstarts.exists_prints (w.server, w.files) (entries.flatMap remakeLines)
  rw [remake_eq]
  exact went_runAll hprints

/-! ## The whole layout -/

/-- The text of the list of a filespace. -/
def filespaceText (name : String) (entries : List FilespaceEntry) : String :=
  "filespace:" ++ name ++ "\n" ++ String.join (entries.map FilespaceEntry.line)

/-- The lines of the four listings. -/
def listingLines (host : String) (port : Nat) (user : String) : List String :=
  FilespaceRole.all.map (listingLine host port user)

/-- The entries of the four groups, as their listings tell them. -/
def allEntries (workingDirectory : String) (outputs : List CommandOutput) : List FilespaceEntry :=
  (List.zipWith (roleEntries workingDirectory) FilespaceRole.all outputs).flatten

/-- For all answers of the four listings, with commands that can be started and room for the list of
the filespace. If the listings are tabular, the list is written from their lines, group by group and
line by line, and then each line's directory is removed and made on its host, in the same order. If
one of them is not, the operation fails after some of the listings: it has called for nothing else
and written nothing. -/
theorem layOutFilespace_all_or_nothing (name workingDirectory : String) {site : Site σ}
    {w : World σ} {host : String} {port : Nat} {user listFile : String}
    {outputs : List CommandOutput}
    (hstarts : Starts site)
    (hprints : Prints site (w.server, w.files) (listingLines host port user) outputs)
    (hroom : (afterLines site (w.server, w.files) (listingLines host port user)).2.CanHold
      site.place listFile) :
    let run := runAt (layOutFilespace host port user name listFile workingDirectory) site w
    let listed := afterLines site (w.server, w.files) (listingLines host port user)
    let entries := allEntries workingDirectory outputs
    let content := Text.utf8 (filespaceText name entries)
    let remakes := entries.flatMap remakeLines
    ((∀ output ∈ outputs, Tabular output) →
      run.1 = .ok () ∧ ∃ files, listed.2.write site.place listFile content = .ok files ∧
        files.read site.place listFile = .ok content ∧
        Went w (lineCalls site (listingLines host port user) ++ lineCalls site remakes)
          (afterLines site (listed.1, files) remakes) run.2 ∧
        (KeepsFiles site → run.2.files.read site.place listFile = .ok content)) ∧
    ((¬∀ output ∈ outputs, Tabular output) →
      ∃ f asked, run.1 = .error f ∧ asked <+: listingLines host port user ∧
        Went w (lineCalls site asked) (afterLines site (w.server, w.files) asked) run.2 ∧
        (KeepsFiles site → run.2.files = w.files)) := by
  intro run listed entries content remakes
  refine ⟨fun htabular => ?_, fun hbad => ?_⟩
  · obtain ⟨w₁, hlist, hwent₁⟩ := went_listings_of_tabular workingDirectory hprints htabular
    obtain ⟨files, hwrite, hread⟩ := hroom content
    have hwritten : w₁.files.write site.place listFile content = .ok files := by
      rwa [hwent₁.files]
    obtain ⟨w₂, hchange, hwent₂⟩ :=
      went_changeFiles (fun files here => files.write here listFile content) hwritten
    obtain ⟨w₃, hremake, hwent₃⟩ := went_remake hstarts entries w₂
    have hrun : run = (.ok (), w₃) := by
      refine (runAt_bind_ok hlist _).trans ?_
      exact (runAt_bind_ok hchange _).trans hremake
    have hwent : Went w (lineCalls site (listingLines host port user) ++ lineCalls site remakes)
        (afterLines site (listed.1, files) remakes) w₃ := by
      rw [hwent₂.server, hwent₂.files, hwent₁.server] at hwent₃
      have hboth := hwent₁.trans (hwent₂.trans hwent₃)
      rwa [List.nil_append] at hboth
    rw [hrun]
    refine ⟨rfl, files, hwrite, hread, hwent, fun hkeeps => ?_⟩
    rw [hwent.files, hkeeps.afterLines]
    exact hread
  · obtain ⟨f, w', asked, hasked, hlist, hwent⟩ :=
      went_listings_of_not_tabular workingDirectory hprints hbad
    have hrun : run = (.error f, w') := runAt_bind_error hlist _
    rw [hrun]
    refine ⟨f, asked, rfl, hasked, hwent, fun hkeeps => ?_⟩
    rw [hwent.files, hkeeps.afterLines]

/-! ## One segment in each group -/

/-- What a listing of one segment prints. -/
def oneSegment : CommandOutput := ⟨0, " sdw1 | 2 | /data/primary/gpseg0\n\n", ""⟩

/-- A world with an empty data directory. -/
def emptyDataWorld : World Unit where
  server := ()
  files := ⟨[(["data"], .directory newDirectoryMode)]⟩

theorem tabular_oneSegment : Tabular oneSegment := ⟨rfl, by decide⟩

/-- On a host where every listing is of one segment, the list has a line for each group. -/
theorem layOutFilespace_all_or_nothing_oneSegment :
    let site := dataSite (constantHost oneSegment)
    let state := (emptyDataWorld.server, emptyDataWorld.files)
    Starts site ∧
      Prints site state (listingLines "mdw" 5432 "gpadmin") (List.replicate 4 oneSegment) ∧
      (afterLines site state (listingLines "mdw" 5432 "gpadmin")).2.CanHold site.place
        "/data/fs.config" ∧
      (runAt (layOutFilespace "mdw" 5432 "gpadmin" "fs1" "/data/fs.config" "/tmp") site
          emptyDataWorld).2.files.read site.place "/data/fs.config" =
        .ok (Text.utf8 ("filespace:fs1\nsdw1:2:/tmp/fs_master/gpseg0\n"
          ++ "sdw1:2:/tmp/fs_standby/gpseg0\nsdw1:2:/tmp/fs_primary/gpseg0\n"
          ++ "sdw1:2:/tmp/fs_mirror/gpseg0\n")) := by
  intro site state
  have hstarts : Starts site := fun _ _ => ⟨oneSegment, rfl⟩
  have hkeeps : KeepsFiles site := fun _ _ => rfl
  have hprints : Prints site state (listingLines "mdw" 5432 "gpadmin")
      (List.replicate 4 oneSegment) :=
    .cons rfl (.cons rfl (.cons rfl (.cons rfl (.nil _))))
  have hroom : emptyDataWorld.files.CanHold site.place "/data/fs.config" := by
    have hslot : FileTree.Slot emptyDataWorld.files site.place "/data/fs.config" ["data"]
        "fs.config" :=
      .of_lookup (by decide) (by decide) (by decide) (by decide) rfl rfl (.inl ⟨rfl, rfl⟩)
    exact hslot.canHold
  have hlisted : (afterLines site state (listingLines "mdw" 5432 "gpadmin")).2.CanHold site.place
      "/data/fs.config" := hroom
  obtain ⟨hwritten, -⟩ := layOutFilespace_all_or_nothing (w := emptyDataWorld) "fs1" "/tmp" hstarts
    hprints hlisted
  obtain ⟨-, files, -, -, -, hread⟩ := hwritten fun output houtput => by
    rw [List.eq_of_mem_replicate houtput]
    exact tabular_oneSegment
  refine ⟨hstarts, hprints, hlisted, (hread hkeeps).trans ?_⟩
  have htext : filespaceText "fs1" (allEntries "/tmp" (List.replicate 4 oneSegment)) =
      "filespace:fs1\nsdw1:2:/tmp/fs_master/gpseg0\n"
        ++ "sdw1:2:/tmp/fs_standby/gpseg0\nsdw1:2:/tmp/fs_primary/gpseg0\n"
        ++ "sdw1:2:/tmp/fs_mirror/gpseg0\n" := by
    decide
  rw [htext]

end ClusterFixture.Op
