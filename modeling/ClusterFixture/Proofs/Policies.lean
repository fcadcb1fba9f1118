/-
What a comparison of distribution policies says.

Unlike for a table, a copy that fails ends the operation, so a comparison speaks of the two files
that the server has just written and never of older ones. Both files are called by the trimmed name
of the database. The backup is asked of the database of the name as it is given, though, and the
later dump of the database of the trimmed name: with blanks around the name these are two databases,
and the comparison sets the policy of one against that of the other.
-/

import ClusterFixture.Proofs.DumpNames
import ClusterFixture.Proofs.Literals

set_option autoImplicit false

namespace ClusterFixture

open ClusterFixture.Text (Bytes)

/-! ## Files that stay -/

namespace FileTree

variable {t t' : FileTree} {here : Place} {path : String} {content : Bytes}

/-- Writing to a path whose last part is a name puts the file under that name and changes nothing
else. No directory is replaced. -/
theorem exists_place_of_write {base : List String} {name : String}
    (hparts : Path.parts path = base ++ [name]) (hname : name ≠ "..")
    (h : t.write here path content = .ok t') :
    ∃ dir mode, t.locate here path = .ok (dir ++ [name]) ∧
      t' = t.put (dir ++ [name]) (.file content mode) ∧
      ∀ q m, t.node? q = some (.directory m) → t'.node? q = some (.directory m) := by
  obtain ⟨p, hlocate, hput⟩ := write_eq_ok_iff.mp h
  have hfollow := (locate_eq_ok_iff.mp hlocate).2.1
  rw [hparts] at hfollow
  obtain ⟨dir, _, _, _, rfl⟩ := follow_append_name hname hfollow
  obtain ⟨mode, hfree, hput⟩ : ∃ mode, (∀ m, t.node? (dir ++ [name]) ≠ some (.directory m)) ∧
      t.put (dir ++ [name]) (.file content mode) = t' := by
    rcases hput with ⟨old, mode, hfile, _, hput⟩ | ⟨hnone, _, _, hput⟩
    · exact ⟨mode, by simp [hfile], hput⟩
    · exact ⟨newFileMode, by simp [hnone], hput⟩
  refine ⟨dir, mode, hlocate, hput.symm, fun q m hq => ?_⟩
  rw [← hput]
  exact node?_put_of_directory (by simp) hfree _ hq

/-- While the directories stay, what can be read from a path is what is at its place. -/
theorem eq_of_read {p : Place} {mode : Nat} {read : Bytes} (hlocate : t.locate here path = .ok p)
    (hdirs : ∀ q m, t.node? q = some (.directory m) → t'.node? q = some (.directory m))
    (hfile : t'.node? p = some (.file content mode)) (hread : t'.read here path = .ok read) :
    read = content := by
  obtain ⟨p', mode', hlocate', hfile', _⟩ := read_eq_ok_iff.mp hread
  have hfollow := follow_of_directories hdirs (locate_eq_ok_iff.mp hlocate).2.1
  have hsame : p' = p := by
    rw [(locate_eq_ok_iff.mp hlocate').2.1] at hfollow
    exact Except.ok.inj hfollow
  rw [hsame, hfile] at hfile'
  cases hfile'
  rfl

/-- Two files of different names that are written one after the other hold what was written. -/
theorem eq_of_read_of_writes {t'' : FileTree} {path' : String} {content' read read' : Bytes}
    {base base' : List String} {name name' : String}
    (hparts : Path.parts path = base ++ [name]) (hname : name ≠ "..")
    (hparts' : Path.parts path' = base' ++ [name']) (hname' : name' ≠ "..") (hne : name ≠ name')
    (hwrite : t.write here path content = .ok t')
    (hwrite' : t'.write here path' content' = .ok t'')
    (hread : t''.read here path = .ok read) (hread' : t''.read here path' = .ok read') :
    read = content ∧ read' = content' := by
  obtain ⟨dir, mode, hlocate, hput, hdirs⟩ := exists_place_of_write hparts hname hwrite
  obtain ⟨dir', mode', hlocate', hput', hdirs'⟩ := exists_place_of_write hparts' hname' hwrite'
  have hplaces : dir ++ [name] ≠ dir' ++ [name'] :=
    fun h => hne (List.singleton_inj.mp (List.append_inj' h rfl).2)
  have hfile : t''.node? (dir ++ [name]) = some (.file content mode) := by
    rw [hput', node?_put _ (by simp), if_neg hplaces, hput, node?_put _ (by simp), if_pos rfl]
  have hfile' : t''.node? (dir' ++ [name']) = some (.file content' mode') := by
    rw [hput', node?_put _ (by simp), if_pos rfl]
  exact ⟨eq_of_read hlocate (fun q m hq => hdirs' q m (hdirs q m hq)) hfile hread,
    eq_of_read hlocate' hdirs' hfile' hread'⟩

end FileTree

namespace Op

variable {σ : Type}

/-! ## One dump -/

/-- What a server answers when it is to copy the distribution policy of a database. -/
def policyAnswer (site : Site σ) (database path : String) (state : σ × FileTree) :
    Checked Unit × (σ × FileTree) :=
  (site.services.execute { database } (Sql.Statement.copyDistributionPolicy path)).run state

/-- The call that has a policy copied. -/
def policyCall (database path : String) : Call :=
  .execute { database } (Sql.Statement.copyDistributionPolicy path)

/-- Dumping a policy is one call, and ends as it does. -/
theorem went_dumpPolicy (file database : String) (hfile : file ≠ "") (site : Site σ)
    (w : World σ) :
    ∃ w', runAt (dumpPolicy file database) site w =
        ((policyAnswer site database (site.dataPath file) (w.server, w.files)).1, w') ∧
      Went w [policyCall database (site.dataPath file)]
        (policyAnswer site database (site.dataPath file) (w.server, w.files)).2 w' := by
  rw [dumpPolicy, runAt_bind_ok (runAt_dataFile file hfile site w)]
  exact went_executeAt _ _ site w

theorem went_backupPolicy (database : String) (site : Site σ) (w : World σ) :
    let backup := DumpSubject.policy.path site database backupEnding
    ∃ w', runAt (backupPolicy database) site w =
        ((policyAnswer site database backup (w.server, w.files)).1, w') ∧
      Went w [policyCall database backup]
        (policyAnswer site database backup (w.server, w.files)).2 w' :=
  went_dumpPolicy _ database (append_backupEnding_ne_empty _) site w

/-- Comparing policies dumps again, from the database of the trimmed name; then it compares the two
files as that dump left them, and that changes nothing. -/
theorem went_validatePolicy (database : String) (site : Site σ) (w : World σ) :
    let backup := DumpSubject.policy.path site database backupEnding
    let restore := DumpSubject.policy.path site database restoreEnding
    let answer := policyAnswer site (Text.trim database) restore (w.server, w.files)
    ∃ w', runAt (validatePolicy database) site w =
        (answer.1.bind fun _ => (runAt (compareFiles backup restore) site w').1, w') ∧
      Went w [policyCall (Text.trim database) restore] answer.2 w' := by
  intro backup restore answer
  have hbackup : site.dataPath (policyFile (Text.trim database) backupEnding) = backup := by
    rw [policyFile, Text.trim_trim]
    rfl
  have hrestore : site.dataPath (policyFile (Text.trim database) restoreEnding) = restore := by
    rw [policyFile, Text.trim_trim]
    rfl
  obtain ⟨w', hrun, hwent⟩ := went_dumpPolicy (policyFile (Text.trim database) restoreEnding)
    (Text.trim database) (append_restoreEnding_ne_empty _) site w
  rw [hrestore] at hrun hwent
  refine ⟨w', ?_, hwent⟩
  have hanswer : policyAnswer site (Text.trim database) restore (w.server, w.files) = answer := rfl
  rw [hanswer] at hrun
  rw [validatePolicy]
  rcases hfirst : answer.1 with f | _
  · rw [hfirst] at hrun
    rw [runAt_bind_error hrun]
    rfl
  · rw [hfirst] at hrun
    rw [runAt_bind_ok hrun,
      runAt_bind_ok (runAt_dataFile (policyFile (Text.trim database) backupEnding)
        (append_backupEnding_ne_empty _) site w'),
      runAt_bind_ok (runAt_dataFile (policyFile (Text.trim database) restoreEnding)
        (append_restoreEnding_ne_empty _) site w'), hbackup, hrestore, runAt_compareFiles]
    rfl

/-- A backup, and a comparison that meets another state of the server: two calls, each of which ends
its operation if it fails. -/
theorem went_both {database : String} {site : Site σ} {w : World σ} {later : σ}
    {first second : Checked Unit} {between stop : σ × FileTree}
    (hfirst : policyAnswer site database (DumpSubject.policy.path site database backupEnding)
      (w.server, w.files) = (first, between))
    (hsecond : policyAnswer site (Text.trim database)
      (DumpSubject.policy.path site database restoreEnding) (later, between.2) = (second, stop)) :
    let backup := DumpSubject.policy.path site database backupEnding
    let restore := DumpSubject.policy.path site database restoreEnding
    let saved := runAt (backupPolicy database) site w
    ∃ w', saved.1 = first ∧
      runAt (validatePolicy database) site (saved.2.withServer later) =
        (second.bind fun _ => (runAt (compareFiles backup restore) site w').1, w') ∧
      w'.files = stop.2 ∧
      w'.calls = w.calls ++
        [policyCall database backup, policyCall (Text.trim database) restore] := by
  intro backup restore saved
  obtain ⟨w₁, hsaved, hwent₁⟩ := went_backupPolicy database site w
  obtain ⟨w₂, hchecked, hwent₂⟩ := went_validatePolicy database site (w₁.withServer later)
  rw [hfirst] at hsaved hwent₁
  rw [World.withServer_server, World.withServer_files, hwent₁.files, hsecond] at hchecked hwent₂
  have hsaved' : saved = (first, w₁) := hsaved
  refine ⟨w₂, by rw [hsaved'], ?_, hwent₂.files, ?_⟩
  · rw [hsaved']
    exact hchecked
  · rw [hwent₂.calls, World.withServer_calls, hwent₁.calls, List.append_assoc]
    rfl

/-! ## A server that copies policies -/

/-- A server whose copies of distribution policies, where they succeed, write what the database
holds. It follows paths from its own working directory, and what it holds may change at any time. -/
def CopiesPolicies (site : Site σ) (home : Place) (policy : σ → String → Bytes) : Prop :=
  ∀ database path state state',
    policyAnswer site database path state = (.ok (), state') →
      state.2.write home path (policy state.1 database) = .ok state'.2

/-- All calls are statements to one database. -/
def OnOneDatabase (calls : List Call) : Prop :=
  ∃ database, ∀ call ∈ calls, ∃ statement, call = .execute { database } statement

theorem onOneDatabase_policyCalls_iff (database name path path' : String) :
    OnOneDatabase [policyCall database path, policyCall name path'] ↔ name = database := by
  constructor
  · rintro ⟨target, hcalls⟩
    obtain ⟨_, hfirst⟩ := hcalls (policyCall database path) (by simp)
    obtain ⟨_, hsecond⟩ := hcalls (policyCall name path') (by simp)
    simp only [policyCall, Call.execute.injEq, Sql.Target.mk.injEq] at hfirst hsecond
    rw [hfirst.1.1, hsecond.1.1]
  · rintro rfl
    exact ⟨name, by simp [policyCall]⟩

/-- A path leads to a file that can be read. -/
def Readable (files : FileTree) (here : Place) (path : String) : Prop :=
  ∃ content, files.read here path = .ok content

/-- All dumps have absolute paths. -/
theorem isAbsolute_path {site : Site σ} (habsolute : Path.isAbsolute site.directory = true)
    (database : String) (d : DumpSubject) {ending : String} (hending : ending ∈ endings) :
    Path.isAbsolute (d.path site database ending) = true := by
  obtain ⟨full, hfull⟩ := Path.exists_absolute site.directory
    (Path.join site.settings.dataDirectory (d.stem database ++ ending))
    (Path.join_ne_empty _ _ (append_ending_ne_empty hending))
  rw [DumpSubject.path, Site.dataPath, hfull]
  simp only []
  rw [Path.isAbsolute_absolute hfull, habsolute, Bool.or_true]

section

variable {site : Site σ} {home : Place} {policy : σ → String → Bytes} {database name : String}
  {start between stop : σ × FileTree} {later : σ}

/-- After two copies that succeeded, of whatever databases, each file holds what its copy found, as
far as the file can be read at all. -/
theorem CopiesPolicies.eq_of_read (hserver : CopiesPolicies site home policy)
    (habsolute : Path.isAbsolute site.directory = true)
    (hfirst : policyAnswer site database (DumpSubject.policy.path site database backupEnding)
      start = (.ok (), between))
    (hsecond : policyAnswer site name (DumpSubject.policy.path site database restoreEnding)
      (later, between.2) = (.ok (), stop)) {before after : Bytes}
    (hbefore : stop.2.read site.place (DumpSubject.policy.path site database backupEnding) =
      .ok before)
    (hafter : stop.2.read site.place (DumpSubject.policy.path site database restoreEnding) =
      .ok after) :
    before = policy start.1 database ∧ after = policy later name := by
  have hbackup : backupEnding ∈ endings := by simp [endings]
  have hrestore : restoreEnding ∈ endings := by simp [endings]
  have hwrite := hserver database _ _ _ hfirst
  have hwrite' := hserver name _ _ _ hsecond
  -- The paths are absolute, so it is all the same from where they are followed.
  rw [FileTree.write_of_isAbsolute _ home site.place (isAbsolute_path habsolute database _ hbackup)]
    at hwrite
  rw [FileTree.write_of_isAbsolute _ home site.place
    (isAbsolute_path habsolute database _ hrestore)] at hwrite'
  exact FileTree.eq_of_read_of_writes (parts_dataPath site _ hbackup) (append_ending_ne_up hbackup)
    (parts_dataPath site _ hrestore) (append_ending_ne_up hrestore)
    (append_backup_ne_append_restore _ _) hwrite hwrite' hbefore hafter

/-- So a comparison of two such files tells whether the copies found the same. -/
theorem CopiesPolicies.compareFiles_eq (hserver : CopiesPolicies site home policy)
    (habsolute : Path.isAbsolute site.directory = true)
    (hfirst : policyAnswer site database (DumpSubject.policy.path site database backupEnding)
      start = (.ok (), between))
    (hsecond : policyAnswer site name (DumpSubject.policy.path site database restoreEnding)
      (later, between.2) = (.ok (), stop)) {w : World σ} (hw : w.files = stop.2)
    (hbackup : Readable w.files site.place (DumpSubject.policy.path site database backupEnding))
    (hrestore : Readable w.files site.place
      (DumpSubject.policy.path site database restoreEnding)) :
    (runAt (compareFiles (DumpSubject.policy.path site database backupEnding)
        (DumpSubject.policy.path site database restoreEnding)) site w).1 =
      if policy start.1 database = policy later name then .ok ()
      else .error (differing (DumpSubject.policy.path site database backupEnding)
        (DumpSubject.policy.path site database restoreEnding)) := by
  obtain ⟨before, hbefore⟩ := hbackup
  obtain ⟨after, hafter⟩ := hrestore
  rw [runAt_compareFiles, hbefore, hafter]
  rw [hw] at hbefore hafter
  obtain ⟨rfl, rfl⟩ := hserver.eq_of_read habsolute hfirst hsecond hbefore hafter
  rfl

end

/-- A backup of the distribution policy and the comparison that follows. Each makes one copy and
ends with its fault, whatever files there are; the comparison succeeds exactly when its copy does
and the two files of this database hold the same. Over a server that copies what a database holds,
with both copies made, it tells whether the policy that the database of the trimmed name has by then
is the one that the database of the given name had; only a file that was there before and forbids
reading gets in the way. The two databases are one exactly when there are no blanks around the
name. -/
theorem policy_comparison {site : Site σ} {home : Place} {policy : σ → String → Bytes}
    (hserver : CopiesPolicies site home policy)
    (habsolute : Path.isAbsolute site.directory = true) (database : String) (w : World σ)
    (later : σ) :
    let name := Text.trim database
    let backup := DumpSubject.policy.path site database backupEnding
    let restore := DumpSubject.policy.path site database restoreEnding
    let first := policyAnswer site database backup (w.server, w.files)
    let second := policyAnswer site name restore (later, first.2.2)
    let saved := runAt (backupPolicy database) site w
    let checked := runAt (validatePolicy database) site (saved.2.withServer later)
    let readable := Readable checked.2.files site.place
    checked.2.calls = w.calls ++ [policyCall database backup, policyCall name restore] ∧
      (OnOneDatabase (checked.2.calls.drop w.calls.length) ↔ name = database) ∧
      saved.1 = first.1 ∧
      (∀ f, second.1 = .error f → checked.1 = .error f) ∧
      (checked.1 = .ok () ↔
        second.1 = .ok () ∧ SameContent checked.2.files site.place backup restore) ∧
      (first.1 = .ok () → second.1 = .ok () →
        (readable backup ∧ readable restore →
          checked.1 = if policy w.server database = policy later name then .ok ()
            else .error (differing backup restore)) ∧
        (¬(readable backup ∧ readable restore) → ∃ text, checked.1 = .error (.io text))) := by
  intro name backup restore first second saved checked readable
  have hfirst : policyAnswer site database backup (w.server, w.files) = (first.1, first.2) := rfl
  have hsecond : policyAnswer site name restore (later, first.2.2) = (second.1, second.2) := rfl
  obtain ⟨w', hsaved, hchecked, hfiles, hcalls⟩ := went_both hfirst hsecond
  have hchecked' : checked =
      (second.1.bind fun _ => (runAt (compareFiles backup restore) site w').1, w') := hchecked
  have hleft : checked.2 = w' := congrArg Prod.snd hchecked'
  rw [← hleft] at hcalls
  refine ⟨hcalls, ?_, hsaved, fun f hf => ?_, ?_, fun hok hok' => ?_⟩
  · rw [hcalls, List.drop_left]
    exact onOneDatabase_policyCalls_iff database name backup restore
  · rw [hchecked', hf]
    rfl
  · rw [hchecked']
    rcases second.1 with f | _
    · exact ⟨nofun, fun h => (by cases h.1)⟩
    · exact (compareFiles_eq_ok_iff backup restore site w').trans (and_iff_right rfl).symm
  · have hverdict : checked.1 = (runAt (compareFiles backup restore) site w').1 := by
      rw [hchecked', hok']
      rfl
    rw [hok] at hfirst
    rw [hok'] at hsecond
    simp only [readable, hleft, hverdict]
    constructor
    · rintro ⟨hbackup, hrestore⟩
      exact hserver.compareFiles_eq habsolute hfirst hsecond hfiles hbackup hrestore
    · intro hunreadable
      rw [runAt_compareFiles]
      rcases hbefore : w'.files.read site.place backup with e | before
      · exact ⟨e.message, rfl⟩
      rcases hafter : w'.files.read site.place restore with e | after
      · exact ⟨e.message, rfl⟩
      exact absurd ⟨⟨before, hbefore⟩, after, hafter⟩ hunreadable

/-! ## A policy that is kept, and two that differ -/

/-- The path of a dump of the policy of `sales` in a data directory right below the root. -/
def salesPath (ending : String) : String := "/data/sales_dist_policy" ++ ending

/-- A server that keeps a policy for each database, and knows the copies of that of `sales`. -/
def policyKeeper : Services (String → Bytes) where
  query _ _ := fun state => (.error (.plain .queryFailed "db error"), state)
  execute target statement := fun state =>
    match endings.find? fun ending =>
      statement == Sql.Statement.copyDistributionPolicy (salesPath ending) with
    | none => (.error (.plain .queryFailed "db error"), state)
    | some ending =>
      match state.2.write [] (salesPath ending) (state.1 target.database) with
      | .error e => (.error (.io e.message), state)
      | .ok files => (.ok (), (state.1, files))
  run _ := fun state => (.error (.plain .commandFailed "no commands"), state)

/-- A site with that server. -/
def policySite : Site (String → Bytes) := dataSite policyKeeper

theorem copyDistributionPolicy_injective {path path' : String}
    (h : Sql.Statement.copyDistributionPolicy path = Sql.Statement.copyDistributionPolicy path') :
    path = path' :=
  (Sql.render_value_inj [.text _] []).mp h

theorem copiesPolicies_policyKeeper :
    CopiesPolicies policySite [] fun held database => held database := by
  intro database path state state' hanswer
  simp only [policyAnswer, policySite, dataSite, policyKeeper, StateT.run] at hanswer
  split at hanswer
  · cases hanswer
  · next ending hfound =>
    have hpath := copyDistributionPolicy_injective (by simpa using List.find?_some hfound)
    rw [hpath]
    split at hanswer
    · cases hanswer
    · next files hwrite =>
      cases hanswer
      exact hwrite

theorem policyAnswer_policyKeeper {ending : String} (hending : ending ∈ endings)
    {held : String → Bytes} {database : String} {files files' : FileTree}
    (hwrite : files.write [] (salesPath ending) (held database) = .ok files') :
    policyAnswer policySite database (salesPath ending) (held, files) =
      (.ok (), (held, files')) := by
  have hsame : ∀ e, (Sql.Statement.copyDistributionPolicy (salesPath ending) ==
      Sql.Statement.copyDistributionPolicy (salesPath e)) = (salesPath ending == salesPath e) := by
    intro e
    rw [Bool.eq_iff_iff, beq_iff_eq, beq_iff_eq]
    exact ⟨copyDistributionPolicy_injective, congrArg _⟩
  have hfind : ∀ other ∈ endings,
      endings.find? (fun e => salesPath other == salesPath e) = some other := by
    decide
  simp [policyAnswer, policySite, dataSite, policyKeeper, StateT.run, hsame, hfind ending hending,
    hwrite]

/-- A data directory without any dump. -/
def policyFiles : FileTree := ⟨[(["data"], .directory newDirectoryMode)]⟩

theorem slot_policyFiles : ∀ ending ∈ endings,
    FileTree.Slot policyFiles [] (salesPath ending) ["data"] ("sales_dist_policy" ++ ending) := by
  have hlegal : ∀ ending ∈ endings, '\x00' ∉ (salesPath ending).toList ∧
      (salesPath ending).isEmpty = false ∧
      (salesPath ending).utf8ByteSize ≤ FileTree.pathLimit ∧
      FileTree.asksDirectory (salesPath ending) = false := by
    decide
  have hfollow : ∀ ending ∈ endings,
      policyFiles.follow (FileTree.start [] (salesPath ending)) (Path.parts (salesPath ending)) =
        .ok (["data"] ++ ["sales_dist_policy" ++ ending]) := by
    decide
  have hready : ∀ ending ∈ endings,
      policyFiles.node? (["data"] ++ ["sales_dist_policy" ++ ending]) = none ∧
        policyFiles.canChangeNames (["data"] ++ ["sales_dist_policy" ++ ending]) = true := by
    decide
  intro ending hending
  obtain ⟨hnul, hempty, hshort, hplain⟩ := hlegal ending hending
  have hdir : policyFiles.node? ["data"] = some (.directory newDirectoryMode) := rfl
  exact .of_lookup hnul hempty hshort hplain (hfollow ending hending) hdir
    (.inl (hready ending hending))

/-- The dumps of `sales` are at these paths, also with blanks around the name. -/
theorem path_policySite : ∀ database ∈ ["sales", " sales "], ∀ ending ∈ endings,
    DumpSubject.policy.path policySite database ending = salesPath ending := by
  decide

/-- Both copies are made, and can be read. -/
theorem copies_policyKeeper {database : String} (hdatabase : database ∈ ["sales", " sales "])
    (held later : String → Bytes) (name : String) :
    ∃ files files',
      policyAnswer policySite database (DumpSubject.policy.path policySite database backupEnding)
          (held, policyFiles) = (.ok (), (held, files)) ∧
        policyAnswer policySite name (DumpSubject.policy.path policySite database restoreEnding)
          (later, files) = (.ok (), (later, files')) ∧
        ∀ ending ∈ endings,
          Readable files' [] (DumpSubject.policy.path policySite database ending) := by
  have hbackup : backupEnding ∈ endings := by simp [endings]
  have hrestore : restoreEnding ∈ endings := by simp [endings]
  have hpath := path_policySite database hdatabase
  rw [hpath _ hbackup, hpath _ hrestore]
  have hslot := slot_policyFiles backupEnding hbackup
  obtain ⟨mode, hopen, hwrite⟩ := hslot.write (held database)
  have hslots := fun ending hending =>
    (slot_policyFiles ending hending).put hslot (held database) hopen
  obtain ⟨mode', hopen', hwrite'⟩ := (hslots restoreEnding hrestore).write (later name)
  refine ⟨_, _, policyAnswer_policyKeeper hbackup hwrite,
    policyAnswer_policyKeeper hrestore hwrite', fun ending hending => ?_⟩
  rw [hpath ending hending]
  have hslot' := (hslots ending hending).put (hslots restoreEnding hrestore) (later name) hopen'
  rcases List.mem_pair.mp hending with rfl | rfl
  · refine ⟨held database, hslot'.read ⟨mode, ?_⟩⟩
    have hne : ["data"] ++ ["sales_dist_policy" ++ backupEnding] ≠
        ["data"] ++ ["sales_dist_policy" ++ restoreEnding] := by
      decide
    rw [FileTree.node?_put _ (by simp), if_neg hne, FileTree.node?_put _ (by simp), if_pos rfl]
  · refine ⟨later name, hslot'.read ⟨mode', ?_⟩⟩
    rw [FileTree.node?_put _ (by simp), if_pos rfl]

/-- A policy that is another one at the comparison is reported. -/
theorem policy_comparison_changed :
    (runAt (validatePolicy "sales") policySite ((runAt (backupPolicy "sales") policySite
        ⟨fun _ => [49], policyFiles, [], []⟩).2.withServer fun _ => [50])).1 =
      .error (differing "/data/sales_dist_policy_backup" "/data/sales_dist_policy_restore") := by
  have hdatabase : "sales" ∈ ["sales", " sales "] := by simp
  obtain ⟨files, files', hfirst, hsecond, hread⟩ :=
    copies_policyKeeper hdatabase (fun _ => [49]) (fun _ => [50]) (Text.trim "sales")
  let w : World (String → Bytes) := ⟨fun _ => [49], policyFiles, [], []⟩
  obtain ⟨w', _, hchecked, hfiles, _⟩ := went_both (w := w) hfirst hsecond
  have hleft := congrArg (fun run => run.2.files) hchecked
  obtain ⟨_, _, _, _, _, hverdict⟩ := policy_comparison copiesPolicies_policyKeeper (by decide)
    "sales" w fun _ => [50]
  simp only [hfirst, hsecond, hleft, hfiles, w] at hverdict
  have hbackup := hread backupEnding (by simp [endings])
  have hrestore := hread restoreEnding (by simp [endings])
  have hreported := (hverdict trivial trivial).1 ⟨hbackup, hrestore⟩
  rw [path_policySite _ hdatabase _ (by simp [endings]),
    path_policySite _ hdatabase _ (by simp [endings])] at hreported
  exact hreported.trans (if_neg (by decide))

/-- With blanks around the name the policies of two databases are compared, and where these differ,
policies that are the same as before are reported as changed. -/
theorem policies_of_two_databases :
    let held := fun database : String => if database = "sales" then [49] else []
    let saved := runAt (backupPolicy " sales ") policySite ⟨held, policyFiles, [], []⟩
    let checked := runAt (validatePolicy " sales ") policySite (saved.2.withServer held)
    let backup := "/data/sales_dist_policy_backup"
    let restore := "/data/sales_dist_policy_restore"
    checked.2.calls = [policyCall " sales " backup, policyCall "sales" restore] ∧
      ¬OnOneDatabase checked.2.calls ∧ saved.1 = .ok () ∧
      checked.1 = .error (differing backup restore) := by
  intro held saved checked backup restore
  have hdatabase : " sales " ∈ ["sales", " sales "] := by simp
  have htrim : Text.trim " sales " = "sales" := by decide
  obtain ⟨files, files', hfirst, hsecond, hread⟩ :=
    copies_policyKeeper hdatabase held held (Text.trim " sales ")
  obtain ⟨w', hsaved, hchecked, hfiles, hcalls⟩ :=
    went_both (w := ⟨held, policyFiles, [], []⟩) hfirst hsecond
  have hverdict := copiesPolicies_policyKeeper.compareFiles_eq (by decide) hfirst hsecond hfiles
    (by rw [hfiles]; exact hread _ (by simp [endings]))
    (by rw [hfiles]; exact hread _ (by simp [endings]))
  rw [htrim] at hcalls
  rw [path_policySite _ hdatabase _ (by simp [endings]),
    path_policySite _ hdatabase _ (by simp [endings])] at hchecked hverdict hcalls
  have hne : held " sales " ≠ held (Text.trim " sales ") := by decide
  rw [if_neg hne] at hverdict
  have hchecked' : checked = (.error (differing backup restore), w') :=
    hchecked.trans (congrArg (·, w') hverdict)
  refine ⟨?_, ?_, hsaved, ?_⟩
  · rw [hchecked']
    exact hcalls
  · rw [hchecked', hcalls, List.nil_append, onOneDatabase_policyCalls_iff]
    decide
  · rw [hchecked']

end Op

end ClusterFixture
