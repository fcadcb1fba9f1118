/-
Dumping the tables of a database, and comparing them later.

The comparison is right over a server that does what it is told: it tells the order of the columns
of every listed table, and its copies succeed and write what the table holds. Then the comparison
succeeds exactly when there are as many tables as expected and each holds what it held when it was
backed up. The two loops write different files, and each file is written once; that is why one dump
never disturbs another one.
-/

import ClusterFixture.Proofs.Comparison
import ClusterFixture.Proofs.DumpPlaces

set_option autoImplicit false

namespace ClusterFixture.Op

open ClusterFixture.Sql (TableName)
open ClusterFixture.Text (Bytes)

variable {σ : Type}

/-! ## A server that does what it is told -/

/-- What a server has of its tables. -/
structure Holdings where
  /-- What a copy of the table writes. -/
  dump : TableName → Bytes
  /-- The order of the columns. -/
  order : TableName → String

/-- The row of a table in the listing. -/
def listingRow (t : TableName) : Sql.Row := .ofTexts [t.schema, t.name]

theorem mapM_listingRow (tables : List TableName) :
    (tables.map listingRow).mapM
      (fun row => (do return ⟨← row.text 0, ← row.text 1⟩ : Checked TableName)) = .ok tables := by
  induction tables with
  | nil => rfl
  | cons t rest ih =>
    rw [List.map_cons, List.mapM_cons, ih]
    rfl

/-- A server that lists these tables of a database, whatever happens, tells the order of their
columns, and copies them to files, where the paths are followed from its own working directory. What
it has may change between operations, but not by a statement. -/
structure Faithful (site : Site σ) (database : String) (home : Place) (tables : List TableName)
    (holdings : σ → Holdings) : Prop where
  lists : ∀ server files, ∃ server', holdings server' = holdings server ∧
    (site.services.query { database } Sql.Statement.userTables).run (server, files) =
      (.ok (tables.map listingRow), (server', files))
  orders : ∀ t ∈ tables, ∀ server files, ∃ rows server', holdings server' = holdings server ∧
    (rows.head?.bind fun row => row.text? 0) = some ((holdings server).order t) ∧
    (site.services.query { database } (Sql.Statement.columnOrder t.qualified)).run (server, files) =
      (.ok rows, (server', files))
  copies : ∀ t ∈ tables, ∀ ending ∈ endings, ∀ server files files',
    files.write home (dumpPath site t ending) ((holdings server).dump t) = .ok files' →
      ∃ server', holdings server' = holdings server ∧
        (site.services.execute { database } (Sql.Statement.copyTable t.qualified
          ((holdings server).order t) (dumpPath site t ending))).run (server, files) =
          (.ok (), (server', files'))

section

variable {site : Site σ} {database : String} {home : Place} {tables : List TableName}
  {holdings : σ → Holdings}

/-- The listing as the server answers it. -/
theorem Faithful.runAt_tableNames (hserver : Faithful site database home tables holdings)
    (w : World σ) :
    ∃ w', runAt (tableNames database) site w = (.ok tables, w') ∧
      holdings w'.server = holdings w.server ∧ w'.files = w.files ∧
      w'.calls = w.calls ++ [.query { database } Sql.Statement.userTables] := by
  obtain ⟨server', hsame, hlist⟩ := hserver.lists w.server w.files
  rw [tableNames, query, runAt_bind, runAt_queryAt, hlist]
  simp only []
  rw [runAt_check, mapM_listingRow]
  exact ⟨_, rfl, hsame, rfl, rfl⟩

/-! ## One dump -/

/-- What a dump of a table leaves: the file of the dump holds what the table holds, and nothing else
is different. -/
structure Dumped (site : Site σ) (tables : List TableName) (holdings : σ → Holdings) (dir : Place)
    (t : TableName) (ending : String) (w w' : World σ) : Prop where
  room : Room site tables dir w'.files
  server : holdings w'.server = holdings w.server
  holds : w'.files.Holds (dir ++ [dumpName t ending]) ((holdings w.server).dump t)
  others : ∀ q, q ≠ dir ++ [dumpName t ending] → w'.files.node? q = w.files.node? q

/-- A new dump has the name of no backup, so the backups stay. -/
theorem Dumped.keeps_backup {dir : Place} {t : TableName} {w w' : World σ}
    (hdumped : Dumped site tables holdings dir t restoreEnding w w') {u : TableName}
    {content : Bytes} (hholds : w.files.Holds (dir ++ [dumpName u backupEnding]) content) :
    w'.files.Holds (dir ++ [dumpName u backupEnding]) content := by
  obtain ⟨mode, hfile⟩ := hholds
  refine ⟨mode, (hdumped.others _ fun hplace => ?_).trans hfile⟩
  exact dumpName_backup_ne_restore u t (List.cons.inj (List.append_cancel_left hplace)).1

/-- A faithful server makes the dumps that it is asked for. -/
theorem Faithful.dumped (hserver : Faithful site database home tables holdings)
    (habsolute : Path.isAbsolute site.directory = true) {t : TableName} (ht : t ∈ tables)
    {ending : String} (hending : ending ∈ endings) {table : String}
    (htable : Text.trim table = Text.trim t.qualified) {dir : Place} {w w' : World σ}
    (hroom : Room site tables dir w.files)
    (hleft : (w'.server, w'.files) = dumpLeaves site w (dumpName t ending) table database) :
    Dumped site tables holdings dir t ending w w' := by
  obtain ⟨rows, asked, hasked, hrows, horder⟩ := hserver.orders t ht w.server w.files
  -- The blanks around a name are gone in both statements, so they are those of the listed table.
  have hanswer : orderAnswer site w table database =
      (.ok ((holdings w.server).order t), (asked, w.files)) := by
    simp only [orderAnswer, Sql.Statement.columnOrder_congr htable, horder, singleOf, hrows]
  obtain ⟨mode, hopen, hwrite⟩ :=
    (hroom t ht ending hending).write ((holdings w.server).dump t)
  -- The path is absolute, so the server finds the same file from its own directory.
  rw [FileTree.write_of_isAbsolute _ _ home (isAbsolute_dumpPath habsolute t hending),
    ← hasked] at hwrite
  obtain ⟨copied, hcopied, hcopy⟩ := hserver.copies t ht ending hending asked w.files _ hwrite
  have hleaves : dumpLeaves site w (dumpName t ending) table database = (copied,
      w.files.put (dir ++ [dumpName t ending]) (.file ((holdings asked).dump t) mode)) := by
    rw [dumpLeaves, hanswer]
    simp only []
    rw [copyAnswer, hanswer, Sql.Statement.copyTable_congr htable, ← hasked]
    exact congrArg Prod.snd hcopy
  rw [hleaves] at hleft
  obtain ⟨rfl, hfiles⟩ := Prod.mk.inj hleft
  refine ⟨?_, hcopied.trans hasked, ⟨mode, ?_⟩, fun q hq => ?_⟩
  · rw [hfiles]
    exact hroom.put ht hending _ hopen
  · rw [hfiles, FileTree.node?_put _ (by simp), if_pos rfl, hasked]
  · rw [hfiles, FileTree.node?_put _ (by simp), if_neg hq]

/-! ## Backing up -/

theorem Faithful.runAt_backupTable (hserver : Faithful site database home tables holdings)
    (habsolute : Path.isAbsolute site.directory = true) {t : TableName} (ht : t ∈ tables)
    {dir : Place} (w : World σ) (hroom : Room site tables dir w.files) :
    ∃ w', runAt (backupTable t.qualified database) site w = (.ok (), w') ∧
      Dumped site tables holdings dir t backupEnding w w' := by
  have hending : backupEnding ∈ endings := by simp [endings]
  obtain ⟨w', hdump, hwent⟩ := went_dumpTable (dumpName t backupEnding) t.qualified database
    (dumpName_ne_empty t hending) site w
  exact ⟨w', hdump, hserver.dumped habsolute ht hending rfl hroom hwent.left⟩

/-- Backing up tables of different names succeeds. Each of them is then in the file of its backup,
and nothing else is different. -/
theorem Faithful.runAt_backups (hserver : Faithful site database home tables holdings)
    (habsolute : Path.isAbsolute site.directory = true) {dir : Place} {listed : List TableName}
    (hlisted : ∀ t ∈ listed, t ∈ tables)
    (hdistinct : (listed.map fun t => Text.trim t.qualified).Nodup) (w : World σ)
    (hroom : Room site tables dir w.files) :
    ∃ w', runAt (listed.forM fun t => backupTable t.qualified database) site w = (.ok (), w') ∧
      Room site tables dir w'.files ∧
      (∀ t ∈ listed, w'.files.Holds (dir ++ [dumpName t backupEnding])
        ((holdings w.server).dump t)) ∧
      ∀ q, (∀ t ∈ listed, q ≠ dir ++ [dumpName t backupEnding]) →
        w'.files.node? q = w.files.node? q := by
  induction listed generalizing w with
  | nil => exact ⟨w, rfl, hroom, by simp, fun _ _ => rfl⟩
  | cons t rest ih =>
    obtain ⟨hnew, hdistinct⟩ := List.nodup_cons.mp hdistinct
    obtain ⟨w₁, hrun, hdumped⟩ := hserver.runAt_backupTable habsolute (hlisted t (by simp)) w hroom
    obtain ⟨w', hrest, hroom', hholds, hothers⟩ :=
      ih (fun u hu => hlisted u (by simp [hu])) hdistinct w₁ hdumped.room
    refine ⟨w', ?_, hroom', ?_, ?_⟩
    · rw [runAt_forM_cons, hrun]
      exact hrest
    · intro u hu
      rcases List.mem_cons.mp hu with rfl | hu
      · -- The tables behind this one have other names, so its file stays.
        obtain ⟨mode, hfile⟩ := hdumped.holds
        refine ⟨mode, (hothers _ fun v hv hplace => hnew ?_).trans hfile⟩
        have hname := dumpName_inj (List.cons.inj (List.append_cancel_left hplace)).1
        exact List.mem_map.mpr ⟨v, hv, hname.symm⟩
      · rw [← hdumped.server]
        exact hholds u hu
    · intro q hq
      rw [hothers q fun u hu => hq u (by simp [hu]), hdumped.others q (hq t (by simp))]

/-! ## Comparing -/

/-- The fault for the first table that differs. -/
def verdict (site : Site σ) : Option TableName → Checked Unit
  | none => .ok ()
  | some t => .error (differing (dumpPath site t backupEnding) (dumpPath site t restoreEnding))

theorem verdict_find?_eq_ok_iff {before after : TableName → Bytes} :
    verdict site (tables.find? fun t => before t != after t) = .ok () ↔
      ∀ t ∈ tables, after t = before t := by
  rcases hfind : tables.find? fun t => before t != after t with _ | t
  · rw [List.find?_eq_none] at hfind
    refine ⟨fun _ t ht => ?_, fun _ => rfl⟩
    have hsame : before t = after t := by simpa using hfind t ht
    exact hsame.symm
  · have hdiffer : before t ≠ after t := by simpa using List.find?_some hfind
    refine ⟨fun h => (by cases h), fun h => ?_⟩
    exact absurd (h t (List.mem_of_find?_eq_some hfind)).symm hdiffer

/-- The verdict names the table that differs behind tables that do not. -/
theorem verdict_find?_of_first {before after : TableName → Bytes} {first rest : List TableName}
    {t : TableName} (hfirst : ∀ u ∈ first, after u = before u) (ht : after t ≠ before t) :
    verdict site ((first ++ t :: rest).find? fun u => before u != after u) =
      .error (differing (dumpPath site t backupEnding) (dumpPath site t restoreEnding)) := by
  have hnone : first.find? (fun u => before u != after u) = none := by
    rw [List.find?_eq_none]
    intro u hu
    simp [hfirst u hu]
  rw [List.find?_append, hnone, Option.none_or,
    List.find?_cons_of_pos (by simpa using Ne.symm ht)]
  rfl

/-- Comparing a table with its backup tells whether the table holds what the backup holds. -/
theorem Faithful.runAt_validateTable (hserver : Faithful site database home tables holdings)
    (habsolute : Path.isAbsolute site.directory = true) {t : TableName} (ht : t ∈ tables)
    {dir : Place} (w : World σ) (hroom : Room site tables dir w.files) {before : Bytes}
    (hbefore : w.files.Holds (dir ++ [dumpName t backupEnding]) before) :
    ∃ w', runAt (validateTable t.qualified database) site w =
        (if before = (holdings w.server).dump t then .ok () else verdict site (some t), w') ∧
      Dumped site tables holdings dir t restoreEnding w w' := by
  have hending : restoreEnding ∈ endings := by simp [endings]
  obtain ⟨w', hwent, hrun⟩ := went_validateTable t.qualified database site w
  have hdumped : Dumped site tables holdings dir t restoreEnding w w' :=
    hserver.dumped habsolute ht hending (Text.trim_trim t.qualified) hroom hwent.left
  have hbackup := (hdumped.room t ht backupEnding (by simp [endings])).read
    (hdumped.keeps_backup hbefore)
  have hrestore := (hdumped.room t ht restoreEnding hending).read hdumped.holds
  refine ⟨w', ?_, hdumped⟩
  rw [hrun, ← dumpName, ← dumpName, ← dumpPath, ← dumpPath, runAt_compareFiles, hbackup, hrestore]
  rfl

/-- Comparing some tables with their backups fails at the first that differs. Nothing but the files
of the new dumps is different afterwards. -/
theorem Faithful.runAt_validations (hserver : Faithful site database home tables holdings)
    (habsolute : Path.isAbsolute site.directory = true) {dir : Place} {listed : List TableName}
    (hlisted : ∀ t ∈ listed, t ∈ tables) {before : TableName → Bytes} (w : World σ)
    (hroom : Room site tables dir w.files)
    (hbefore : ∀ t ∈ listed, w.files.Holds (dir ++ [dumpName t backupEnding]) (before t)) :
    ∃ w', runAt (listed.forM fun t => validateTable t.qualified database) site w =
        (verdict site (listed.find? fun t => before t != (holdings w.server).dump t), w') ∧
      ∀ q, (∀ t ∈ listed, q ≠ dir ++ [dumpName t restoreEnding]) →
        w'.files.node? q = w.files.node? q := by
  induction listed generalizing w with
  | nil => exact ⟨w, rfl, fun _ _ => rfl⟩
  | cons t rest ih =>
    obtain ⟨w₁, hrun, hdumped⟩ := hserver.runAt_validateTable habsolute (hlisted t (by simp)) w
      hroom (hbefore t (by simp))
    rw [runAt_forM_cons, hrun]
    by_cases hequal : before t = (holdings w.server).dump t
    · rw [if_pos hequal, List.find?_cons_of_neg (by simp [hequal])]
      have hkept : ∀ u ∈ rest, w₁.files.Holds (dir ++ [dumpName u backupEnding]) (before u) :=
        fun u hu => hdumped.keeps_backup (hbefore u (by simp [hu]))
      obtain ⟨w', hrest, hothers⟩ :=
        ih (fun u hu => hlisted u (by simp [hu])) w₁ hdumped.room hkept
      rw [hdumped.server] at hrest
      refine ⟨w', hrest, fun q hq => ?_⟩
      rw [hothers q fun u hu => hq u (by simp [hu]), hdumped.others q (hq t (by simp))]
    · -- The loop ends here, and the tables behind are not dumped.
      rw [if_neg hequal, List.find?_cons_of_pos (by simpa using hequal)]
      exact ⟨w₁, rfl, fun q hq => hdumped.others q (hq t (by simp))⟩

/-! ## Both runs -/

/-- Nothing but the files of these dumps is different. -/
def OnlyDumps (site : Site σ) (tables : List TableName) (ending : String)
    (files files' : FileTree) : Prop :=
  ∀ q, (∀ t ∈ tables, files.locate site.place (dumpPath site t ending) ≠ .ok q) →
    files'.node? q = files.node? q

theorem Room.onlyDumps {dir : Place} {files files' : FileTree}
    (hroom : Room site tables dir files) {ending : String} (hending : ending ∈ endings)
    (hothers : ∀ q, (∀ t ∈ tables, q ≠ dir ++ [dumpName t ending]) →
      files'.node? q = files.node? q) : OnlyDumps site tables ending files files' := by
  intro q hq
  refine hothers q fun t ht hplace => hq t ht ?_
  rw [(hroom t ht ending hending).located, hplace]

/-- The dumps of a comparison leave the backups alone. -/
theorem OnlyDumps.node?_backup {dir : Place} {files files' : FileTree}
    (honly : OnlyDumps site tables restoreEnding files files') (hroom : Room site tables dir files)
    (t : TableName) :
    files'.node? (dir ++ [dumpName t backupEnding]) =
      files.node? (dir ++ [dumpName t backupEnding]) := by
  refine honly _ fun u hu hlocated => ?_
  rw [(hroom u hu restoreEnding (by simp [endings])).located] at hlocated
  have hplace := List.append_cancel_left (Except.ok.inj hlocated)
  exact dumpName_backup_ne_restore t u (List.cons.inj hplace).1.symm

/-- Backing up a database succeeds, and leaves the backups of all its tables. -/
theorem Faithful.runAt_backupDatabase (hserver : Faithful site database home tables holdings)
    (habsolute : Path.isAbsolute site.directory = true)
    (hdistinct : (tables.map fun t => Text.trim t.qualified).Nodup) {dir : Place} (w : World σ)
    (hroom : Room site tables dir w.files) :
    ∃ w', runAt (backupDatabase database) site w = (.ok (), w') ∧
      Room site tables dir w'.files ∧
      (∀ t ∈ tables, w'.files.Holds (dir ++ [dumpName t backupEnding])
        ((holdings w.server).dump t)) ∧
      OnlyDumps site tables backupEnding w.files w'.files := by
  obtain ⟨w₁, hnames, hserver₁, hfiles₁, _⟩ := hserver.runAt_tableNames w
  have hlogged : ∀ (r : Telemetry.Record), Room site tables dir (w₁.noted r).files := by
    intro r
    rw [World.noted_files, hfiles₁]
    exact hroom
  obtain ⟨w', hrun, hroom', hholds, hothers⟩ :=
    hserver.runAt_backups habsolute (fun _ ht => ht) hdistinct _ (hlogged _)
  rw [World.noted_server, hserver₁] at hholds
  refine ⟨w', ?_, hroom', hholds, hroom.onlyDumps (by simp [endings]) fun q hq => ?_⟩
  · rw [backupDatabase, runAt_bind_ok hnames, runAt_bind_ok (runAt_log _ _ _ _ _ _)]
    exact hrun
  · rw [hothers q hq, World.noted_files, hfiles₁]

/-- The fault of a comparison that expected another number of tables. -/
def unexpectedTables (database : String) (expected actual : Nat) : Fault :=
  .detailed .assertionFailed "Unexpected number of tables"
    ("db " ++ database ++ " does not have expected number of tables " ++ expected.repr ++ " != "
      ++ actual.repr)

/-- With another number of tables than expected, a comparison asks for the listing and stops. -/
theorem Faithful.runAt_validateDatabase_of_ne
    (hserver : Faithful site database home tables holdings) {expected : Nat}
    (hexpected : expected ≠ tables.length) (w : World σ) :
    ∃ w', runAt (validateDatabase database expected) site w =
        (.error (unexpectedTables database expected tables.length), w') ∧
      w'.files = w.files ∧
      w'.calls = w.calls ++ [.query { database } Sql.Statement.userTables] := by
  obtain ⟨w', hnames, _, hfiles, hcalls⟩ := hserver.runAt_tableNames w
  refine ⟨w', ?_, hfiles, hcalls⟩
  rw [validateDatabase, runAt_bind_ok hnames]
  have hne : (tables.length != expected) = true := by simpa using Ne.symm hexpected
  simp only [hne, if_true]
  rfl

/-- With as many tables as expected, a comparison fails at the first table that differs. -/
theorem Faithful.runAt_validateDatabase_of_eq
    (hserver : Faithful site database home tables holdings)
    (habsolute : Path.isAbsolute site.directory = true) {dir : Place} {before : TableName → Bytes}
    (w : World σ) (hroom : Room site tables dir w.files)
    (hbefore : ∀ t ∈ tables, w.files.Holds (dir ++ [dumpName t backupEnding]) (before t)) :
    ∃ w', runAt (validateDatabase database tables.length) site w =
        (verdict site (tables.find? fun t => before t != (holdings w.server).dump t), w') ∧
      OnlyDumps site tables restoreEnding w.files w'.files := by
  obtain ⟨w₁, hnames, hserver₁, hfiles₁, _⟩ := hserver.runAt_tableNames w
  rw [← hfiles₁] at hroom hbefore
  obtain ⟨w', hrun, hothers⟩ :=
    hserver.runAt_validations habsolute (fun _ ht => ht) w₁ hroom hbefore
  rw [hserver₁] at hrun
  refine ⟨w', ?_, ?_⟩
  · rw [validateDatabase, runAt_bind_ok hnames]
    simpa using hrun
  · rw [← hfiles₁]
    exact hroom.onlyDumps (by simp [endings]) hothers

/-- How a comparison ends that expects so many tables. -/
def comparisonResult (site : Site σ) (database : String) (tables : List TableName) (expected : Nat)
    (before after : TableName → Bytes) : Checked Unit :=
  if expected = tables.length then verdict site (tables.find? fun t => before t != after t)
  else .error (unexpectedTables database expected tables.length)

theorem comparisonResult_eq_ok_iff {expected : Nat} {before after : TableName → Bytes} :
    comparisonResult site database tables expected before after = .ok () ↔
      expected = tables.length ∧ ∀ t ∈ tables, after t = before t := by
  rw [comparisonResult]
  split
  · next hexpected => rw [verdict_find?_eq_ok_iff, and_iff_right hexpected]
  · next hexpected => simp [hexpected]

theorem Faithful.runAt_validateDatabase (hserver : Faithful site database home tables holdings)
    (habsolute : Path.isAbsolute site.directory = true) {dir : Place} {before : TableName → Bytes}
    (w : World σ) (hroom : Room site tables dir w.files)
    (hbefore : ∀ t ∈ tables, w.files.Holds (dir ++ [dumpName t backupEnding]) (before t))
    (expected : Nat) :
    ∃ w', runAt (validateDatabase database expected) site w =
        (comparisonResult site database tables expected before (holdings w.server).dump, w') ∧
      OnlyDumps site tables restoreEnding w.files w'.files ∧
      (expected ≠ tables.length →
        w'.calls = w.calls ++ [.query { database } Sql.Statement.userTables]) := by
  by_cases hexpected : expected = tables.length
  · subst hexpected
    obtain ⟨w', hrun, honly⟩ := hserver.runAt_validateDatabase_of_eq habsolute w hroom hbefore
    rw [comparisonResult, if_pos rfl]
    exact ⟨w', hrun, honly, fun hne => absurd rfl hne⟩
  · obtain ⟨w', hrun, hfiles, hcalls⟩ := hserver.runAt_validateDatabase_of_ne hexpected w
    rw [comparisonResult, if_neg hexpected]
    refine ⟨w', hrun, fun q _ => ?_, fun _ => hcalls⟩
    rw [hfiles]

end

/-- Over a faithful server a comparison with the backups tells exactly whether there are as many
tables as expected and each holds what it held at the backup. With another number nothing is dumped;
otherwise the first table that differs is named. The backups stay, and no file is touched but the
dumps of the listed tables. -/
theorem validateDatabase_after_backup {site : Site σ} {database : String} {home : Place}
    {tables : List TableName} {holdings : σ → Holdings}
    (hserver : Faithful site database home tables holdings)
    (habsolute : Path.isAbsolute site.directory = true)
    (hdistinct : (tables.map fun t => Text.trim t.qualified).Nodup)
    (hslash : ∀ t ∈ tables, '/' ∉ (Text.trim t.qualified).toList) (w : World σ)
    (hholds : ∀ t ∈ tables, ∀ ending ∈ endings,
      w.files.CanHold site.place (dumpPath site t ending))
    (later : σ) (expected : Nat) :
    let before := (holdings w.server).dump
    let after := (holdings later).dump
    let saved := runAt (backupDatabase database) site w
    let checked := runAt (validateDatabase database expected) site (saved.2.withServer later)
    saved.1 = .ok () ∧
      (checked.1 = .ok () ↔ expected = tables.length ∧ ∀ t ∈ tables, after t = before t) ∧
      (expected ≠ tables.length →
        checked.1 = .error (unexpectedTables database expected tables.length) ∧
          checked.2.calls = saved.2.calls ++ [.query { database } Sql.Statement.userTables]) ∧
      (expected = tables.length → ∀ first rest t, tables = first ++ t :: rest →
        (∀ u ∈ first, after u = before u) → after t ≠ before t →
          checked.1 = .error
            (differing (dumpPath site t backupEnding) (dumpPath site t restoreEnding))) ∧
      (∀ t ∈ tables, ∃ q, saved.2.files.locate site.place (dumpPath site t backupEnding) = .ok q ∧
        saved.2.files.Holds q (before t) ∧ checked.2.files.node? q = saved.2.files.node? q) ∧
      OnlyDumps site tables backupEnding w.files saved.2.files ∧
      OnlyDumps site tables restoreEnding saved.2.files checked.2.files := by
  intro before after saved checked
  obtain ⟨dir, hroom⟩ := exists_room habsolute hslash hholds
  obtain ⟨w₁, hsaved, hroom₁, hbackups, honly⟩ :=
    hserver.runAt_backupDatabase habsolute hdistinct w hroom
  obtain ⟨w₂, hchecked, honly₂, hcalls⟩ := hserver.runAt_validateDatabase habsolute
    (w₁.withServer later) hroom₁ hbackups expected
  have hsaved' : saved = (.ok (), w₁) := hsaved
  have hchecked' :
      checked = (comparisonResult site database tables expected before after, w₂) := by
    simp only [checked, hsaved']
    exact hchecked
  rw [hsaved', hchecked']
  refine ⟨rfl, comparisonResult_eq_ok_iff, fun hexpected => ⟨?_, hcalls hexpected⟩, ?_,
    fun t ht => ⟨dir ++ [dumpName t backupEnding], ?_, hbackups t ht, ?_⟩, honly, honly₂⟩
  · rw [comparisonResult, if_neg hexpected]
  · intro hexpected first rest t hsplit hfirst hdiffer
    rw [comparisonResult, if_pos hexpected, hsplit]
    exact verdict_find?_of_first hfirst hdiffer
  · exact (hroom₁ t ht backupEnding (by simp [endings])).located
  · exact honly₂.node?_backup hroom₁ t

/-! ## A round trip -/

/-- Two tables, of which one is called like a dump of the other one. -/
def twoTables : List TableName := [⟨"public", "t"⟩, ⟨"public", "t_restore"⟩]

/-- The path of a dump in a data directory right below the root. -/
def plainPath (t : TableName) (ending : String) : String := "/data/" ++ dumpName t ending

/-- A server that keeps the contents of the two tables, and knows the copies of them. -/
def keeper : Services (TableName → Bytes) where
  query _ statement := fun state =>
    (.ok (if statement = Sql.Statement.userTables then twoTables.map listingRow
      else [.ofTexts ["1,2"]]), state)
  execute _ statement := fun state =>
    match (twoTables.product endings).find? fun (t, ending) =>
      statement == Sql.Statement.copyTable t.qualified "1,2" (plainPath t ending) with
    | none => (.error (.plain .queryFailed "db error"), state)
    | some (t, ending) =>
      match state.2.write [] (plainPath t ending) (state.1 t) with
      | .error e => (.error (.io e.message), state)
      | .ok files => (.ok (), (state.1, files))
  run _ := fun state => (.error (.plain .commandFailed "no commands"), state)

/-- A site with that server. -/
def keeperSite : Site (TableName → Bytes) := dataSite keeper

theorem dumpPath_keeperSite : ∀ t ∈ twoTables, ∀ ending ∈ endings,
    dumpPath keeperSite t ending = plainPath t ending := by
  decide

theorem faithful_keeper (database : String) :
    Faithful keeperSite database [] twoTables fun held => ⟨held, fun _ => "1,2"⟩ where
  lists held files := ⟨held, rfl, by simp [keeperSite, dataSite, keeper, StateT.run]⟩
  orders t ht held files := by
    have hother : ∀ u ∈ twoTables,
        Sql.Statement.columnOrder u.qualified ≠ Sql.Statement.userTables := by
      decide
    refine ⟨[.ofTexts ["1,2"]], held, rfl, rfl, ?_⟩
    simp [keeperSite, dataSite, keeper, StateT.run, hother t ht]
  copies t ht ending hending held files files' hwrite := by
    have hfind : ∀ u ∈ twoTables, ∀ other ∈ endings,
        ((twoTables.product endings).find? fun copy =>
          Sql.Statement.copyTable u.qualified "1,2" (plainPath u other) ==
            Sql.Statement.copyTable copy.1.qualified "1,2" (plainPath copy.1 copy.2)) =
          some (u, other) := by
      decide
    rw [dumpPath_keeperSite t ht ending hending] at hwrite ⊢
    refine ⟨held, rfl, ?_⟩
    simp [keeperSite, dataSite, keeper, StateT.run, hfind t ht ending hending, hwrite]

/-- A data directory with a dump of an earlier run. -/
def keeperFiles : FileTree :=
  ⟨[(["data"], .directory newDirectoryMode),
    (["data", "public.t_restore"], .file [48, 9, 57, 10] newFileMode)]⟩

theorem slot_keeperFiles : ∀ t ∈ twoTables, ∀ ending ∈ endings,
    FileTree.Slot keeperFiles [] (plainPath t ending) ["data"] (dumpName t ending) := by
  have hlegal : ∀ t ∈ twoTables, ∀ ending ∈ endings, '\x00' ∉ (plainPath t ending).toList ∧
      (plainPath t ending).isEmpty = false ∧
      (plainPath t ending).utf8ByteSize ≤ FileTree.pathLimit ∧
      FileTree.asksDirectory (plainPath t ending) = false := by
    decide
  have hfollow : ∀ t ∈ twoTables, ∀ ending ∈ endings,
      keeperFiles.follow (FileTree.start [] (plainPath t ending))
        (Path.parts (plainPath t ending)) = .ok (["data"] ++ [dumpName t ending]) := by
    decide
  have hready : ∀ t ∈ twoTables, ∀ ending ∈ endings,
      (keeperFiles.node? (["data"] ++ [dumpName t ending]) = none ∧
        keeperFiles.canChangeNames (["data"] ++ [dumpName t ending]) = true) ∨
      keeperFiles.node? (["data"] ++ [dumpName t ending]) =
        some (.file [48, 9, 57, 10] newFileMode) := by
    decide
  intro t ht ending hending
  obtain ⟨hnul, hempty, hshort, hplain⟩ := hlegal t ht ending hending
  have hdir : keeperFiles.node? ["data"] = some (.directory newDirectoryMode) := rfl
  exact .of_lookup hnul hempty hshort hplain (hfollow t ht ending hending) hdir
    ((hready t ht ending hending).imp_right fun hfile => ⟨_, _, hfile, FileTree.isOpen_newFileMode⟩)

/-- What the two tables hold at first. -/
def heldBefore (_ : TableName) : Bytes := [48, 9, 49, 10]

/-- What they hold when they are compared: the second one has lost its row. -/
def heldAfter (t : TableName) : Bytes := if t.name = "t" then heldBefore t else []

/-- The second table differs, and is named. -/
theorem validateDatabase_after_backup_keeper :
    (runAt (validateDatabase "db" 2) keeperSite
        ((runAt (backupDatabase "db") keeperSite ⟨heldBefore, keeperFiles, [], []⟩).2.withServer
          heldAfter)).1 =
      .error (differing "/data/public.t_restore_backup" "/data/public.t_restore_restore") := by
  have hcanHold : ∀ t ∈ twoTables, ∀ ending ∈ endings,
      keeperFiles.CanHold keeperSite.place (dumpPath keeperSite t ending) := by
    intro t ht ending hending
    rw [dumpPath_keeperSite t ht ending hending]
    exact (slot_keeperFiles t ht ending hending).canHold
  obtain ⟨_, _, _, hverdict, _⟩ := validateDatabase_after_backup (faithful_keeper "db") (by decide)
    (by decide) (by decide) ⟨heldBefore, keeperFiles, [], []⟩ hcanHold heldAfter 2
  have hnamed := hverdict rfl [⟨"public", "t"⟩] [] ⟨"public", "t_restore"⟩ rfl (by decide)
    (by decide)
  have hbackup : dumpPath keeperSite ⟨"public", "t_restore"⟩ backupEnding =
      "/data/public.t_restore_backup" := by
    decide
  have hrestore : dumpPath keeperSite ⟨"public", "t_restore"⟩ restoreEnding =
      "/data/public.t_restore_restore" := by
    decide
  rw [hbackup, hrestore] at hnamed
  exact hnamed

end ClusterFixture.Op
