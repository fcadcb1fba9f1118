/-
Which file every dump of a database gets.

A table is dumped under its schema and its name with a dot between them, trimmed, and the
distribution policy under the trimmed name of the database; an ending tells a backup from a restored
dump. Nothing in these names is escaped. So a slash in a name leads through directories or to the
root, and two names that become one text share their files. The file says for all names when that
happens: what a name has up to its last slash must lead to the data directory itself, and behind the
last slash no two names may be the same.
-/

import ClusterFixture.Proofs.TableCalls

set_option autoImplicit false

namespace ClusterFixture.Op

open ClusterFixture.Sql (TableName)

variable {σ : Type}

/-! ## What is dumped -/

/-- What has dumps of its own in a database: a table, or the distribution policy. -/
inductive DumpSubject where
  | table (t : TableName)
  | policy
  deriving DecidableEq, Repr

namespace DumpSubject

/-- What the names of both dumps begin with. -/
def stem (database : String) : DumpSubject → String
  | .table t => Text.trim t.qualified
  | .policy => Text.trim database ++ "_dist_policy"

/-- The path of a dump, as the server gets it. -/
def path (site : Site σ) (database : String) (d : DumpSubject) (ending : String) : String :=
  site.dataPath (d.stem database ++ ending)

/-- Makes the backup. -/
def backUp (database : String) : DumpSubject → Op σ Unit
  | .table t => backupTable t.qualified database
  | .policy => backupPolicy database

/-- Makes a restored dump and compares it with the backup. -/
def validate (database : String) : DumpSubject → Op σ Unit
  | .table t => validateTable t.qualified database
  | .policy => validatePolicy database

end DumpSubject

/-! ## Where the operations dump to -/

/-- A call that copies nothing to a file, or copies to this one. -/
inductive CopiesTo (path : String) : Call → Prop where
  | query (target : Sql.Target) (statement : String) : CopiesTo path (.query target statement)
  | table (target : Sql.Target) (table order : String) :
    CopiesTo path (.execute target (Sql.Statement.copyTable table order path))
  | policy (target : Sql.Target) :
    CopiesTo path (.execute target (Sql.Statement.copyDistributionPolicy path))

section

variable {site : Site σ} {database : String}

theorem copiesTo_dumpTable {file : String} (hfile : file ≠ "") (table : String) :
    Makes (CopiesTo (site.dataPath file)) site (dumpTable file table database) :=
  .dumpTable hfile (.query _ _) fun order => .table _ table order

theorem copiesTo_dumpPolicy {file : String} (hfile : file ≠ "") :
    Makes (CopiesTo (site.dataPath file)) site (dumpPolicy file database) := by
  unfold dumpPolicy
  exact .bind_of_value (runAt_dataFile file hfile site) (.execute (.policy _))

theorem copiesTo_backUp (d : DumpSubject) :
    Makes (CopiesTo (d.path site database backupEnding)) site (d.backUp database) := by
  cases d with
  | table t => exact copiesTo_dumpTable (append_backupEnding_ne_empty _) t.qualified
  | policy => exact copiesTo_dumpPolicy (append_backupEnding_ne_empty _)

theorem copiesTo_validate (d : DumpSubject) :
    Makes (CopiesTo (d.path site database restoreEnding)) site (d.validate database) := by
  have hcompare : ∀ backup restore : String, Makes (CopiesTo (d.path site database restoreEnding))
      site (do
        let backup ← dataFile backup
        let restore ← dataFile restore
        compareFiles backup restore) :=
    fun backup restore => .bind (.dataFile backup) fun b => .bind (.dataFile restore) fun r =>
      .compareFiles b r
  cases d with
  | table t =>
    exact .bind (copiesTo_dumpTable (append_restoreEnding_ne_empty _) _) fun _ => hcompare _ _
  | policy =>
    -- The name of the database is trimmed twice on this way.
    have hfile : policyFile (Text.trim database) restoreEnding =
        DumpSubject.policy.stem database ++ restoreEnding := by
      rw [policyFile, Text.trim_trim, DumpSubject.stem]
    have hdump : Makes (CopiesTo (site.dataPath (DumpSubject.policy.stem database ++ restoreEnding)))
        site (dumpPolicy (DumpSubject.policy.stem database ++ restoreEnding) (Text.trim database)) :=
      copiesTo_dumpPolicy (append_restoreEnding_ne_empty _)
    rw [← hfile] at hdump
    refine .bind ?_ fun _ => hcompare _ _
    rw [DumpSubject.path, ← hfile]
    exact hdump

/-- A comparison that succeeds has compared the two dumps of its subject. -/
theorem sameContent_of_validate {d : DumpSubject} {w w' : World σ}
    (h : runAt (d.validate database) site w = (.ok (), w')) :
    SameContent w'.files site.place (d.path site database backupEnding)
      (d.path site database restoreEnding) := by
  cases d with
  | table t =>
    have hrun := validateTable_eq_ok_iff t.qualified database site w
    have hfiles := hrun.1
    have hagree := hrun.2.mp (congrArg Prod.fst h)
    have hw' : (runAt (validateTable t.qualified database) site w).2 = w' := congrArg Prod.snd h
    rw [hw'] at hfiles
    rw [hfiles]
    exact hagree
  | policy =>
    have hvalidate : (DumpSubject.policy.validate database : Op σ Unit) =
        validatePolicy database := rfl
    rw [hvalidate, validatePolicy] at h
    obtain ⟨_, w₁, _, h⟩ := runAt_bind_eq_ok.mp h
    rw [policyFile, policyFile, Text.trim_trim,
      runAt_bind_ok (runAt_dataFile _ (append_backupEnding_ne_empty _) site w₁),
      runAt_bind_ok (runAt_dataFile _ (append_restoreEnding_ne_empty _) site w₁)] at h
    have hsame := (compareFiles_eq_ok_iff _ _ site w₁).mp (congrArg Prod.fst h)
    -- A comparison changes no file.
    rw [runAt_compareFiles] at h
    have hw' : w₁ = w' := congrArg Prod.snd h
    rw [← hw']
    exact hsame

end

/-! ## Paths of dumps -/

/-- The parts that lead to the directory of a dump: those of the data directory, unless the name
starts at the root, and then those of the name up to its last slash. -/
def folder (site : Site σ) (stem : String) : List String :=
  (if Path.isAbsolute stem then [] else dataParts site) ++ Path.parts (Path.leading stem)

theorem folder_of_not_slash (site : Site σ) {stem : String} (h : '/' ∉ stem.toList) :
    folder site stem = dataParts site := by
  have hrelative : Path.isAbsolute stem = false := by
    rw [Path.isAbsolute_eq, beq_eq_false_iff_ne]
    exact fun hhead => h (List.mem_of_mem_head? hhead)
  rw [folder, hrelative, (Path.trailing_of_not_slash h).1, Path.parts_empty, List.append_nil]
  rfl

theorem isAbsolute_append_ending (stem : String) {ending : String} (hending : ending ∈ endings) :
    Path.isAbsolute (stem ++ ending) = Path.isAbsolute stem := by
  by_cases hstem : stem = ""
  · rw [hstem, String.empty_append]
    rcases List.mem_pair.mp hending with rfl | rfl
    · decide
    · decide
  · exact Path.isAbsolute_append hstem ending

/-- A dump is right in its folder, and its file is called by what its name has behind the last
slash, with the ending. -/
theorem parts_dataPath (site : Site σ) (stem : String) {ending : String}
    (hending : ending ∈ endings) :
    Path.parts (site.dataPath (stem ++ ending)) =
      folder site stem ++ [Path.trailing stem ++ ending] := by
  obtain ⟨full, hfull⟩ := Path.exists_absolute site.directory
    (Path.join site.settings.dataDirectory (stem ++ ending))
    (Path.join_ne_empty _ _ (append_ending_ne_empty hending))
  have hparts : Path.parts (stem ++ ending) =
      Path.parts (Path.leading stem) ++ [Path.trailing stem ++ ending] :=
    Path.parts_append (isPart_append_ending (Path.not_slash_mem_trailing stem) hending)
  have habsolute := isAbsolute_append_ending stem hending
  rw [Site.dataPath, hfull]
  simp only []
  rw [Path.parts_absolute hfull, folder]
  cases hstem : Path.isAbsolute stem with
  | true =>
    -- An absolute name stands for itself, and the data directory does not matter.
    have hname : Path.isAbsolute (stem ++ ending) = true := habsolute.trans hstem
    have hjoin : Path.join site.settings.dataDirectory (stem ++ ending) = stem ++ ending := by
      rw [Path.join, if_pos hname]
    rw [hjoin, hname, hparts]
    simp only [if_true, List.nil_append]
  | false =>
    have hname : Path.isAbsolute (stem ++ ending) = false := habsolute.trans hstem
    rw [Path.isAbsolute_join _ _ hname, Path.parts_join _ _ hname, hparts, dataParts]
    simp only [Bool.false_eq_true, if_false, List.append_assoc]

/-- The paths of all dumps of some subjects. -/
def dumpPaths (site : Site σ) (database : String) (subjects : List DumpSubject) : List String :=
  subjects.flatMap fun d => endings.map (d.path site database)

/-- Paths that lead to different files, each of them right in the data directory. -/
structure Apart (site : Site σ) (paths : List String) : Prop where
  distinct : (paths.map Path.parts).Nodup
  inside : ∀ path ∈ paths, ∃ name, name ≠ ".." ∧ Path.parts path = dataParts site ++ [name]

section

variable {site : Site σ} {database : String} {subjects : List DumpSubject}

theorem mem_dumpPaths {path : String} :
    path ∈ dumpPaths site database subjects ↔
      ∃ d ∈ subjects, ∃ ending ∈ endings, d.path site database ending = path := by
  simp only [dumpPaths, List.mem_flatMap, List.mem_map]

/-- Dumps are right in the data directory exactly when what their names have up to the last slash
leads there. -/
theorem inside_iff :
    (∀ path ∈ dumpPaths site database subjects,
        ∃ name, name ≠ ".." ∧ Path.parts path = dataParts site ++ [name]) ↔
      ∀ d ∈ subjects, folder site (d.stem database) = dataParts site := by
  constructor
  · intro hinside d hd
    have hending : backupEnding ∈ endings := by simp [endings]
    obtain ⟨name, _, hparts⟩ := hinside _ (mem_dumpPaths.mpr ⟨d, hd, backupEnding, hending, rfl⟩)
    rw [DumpSubject.path, parts_dataPath site _ hending] at hparts
    exact (List.append_inj' hparts rfl).1
  · intro hfolder path hpath
    obtain ⟨d, hd, ending, hending, rfl⟩ := mem_dumpPaths.mp hpath
    refine ⟨Path.trailing (d.stem database) ++ ending, append_ending_ne_up hending, ?_⟩
    rw [DumpSubject.path, parts_dataPath site _ hending, hfolder d hd]

/-- In one folder, two dumps are the same file exactly when their names agree behind the last slash
and their endings agree. -/
theorem parts_path_eq_iff {d e : DumpSubject}
    (hfolder : folder site (d.stem database) = folder site (e.stem database))
    {ending other : String} (hending : ending ∈ endings) (hother : other ∈ endings) :
    Path.parts (d.path site database ending) = Path.parts (e.path site database other) ↔
      Path.trailing (d.stem database) = Path.trailing (e.stem database) ∧ ending = other := by
  rw [DumpSubject.path, DumpSubject.path, parts_dataPath site _ hending,
    parts_dataPath site _ hother, hfolder, List.append_cancel_left_eq, List.singleton_inj,
    append_ending_inj hending hother]

theorem apart_iff :
    Apart site (dumpPaths site database subjects) ↔
      (∀ d ∈ subjects, folder site (d.stem database) = dataParts site) ∧
        (subjects.map fun d => Path.trailing (d.stem database)).Nodup := by
  have hlist : (dumpPaths site database subjects).map Path.parts =
      subjects.flatMap fun d => endings.map fun ending =>
        Path.parts (d.path site database ending) := by
    simp only [dumpPaths, List.map_flatMap, List.map_map, Function.comp_def]
  constructor
  · intro hapart
    have hfolder := inside_iff.mp hapart.inside
    refine ⟨hfolder, ?_⟩
    have hdistinct := hapart.distinct
    rw [hlist, List.nodup_iff_pairwise_ne, List.pairwise_flatMap] at hdistinct
    rw [List.nodup_iff_pairwise_ne, List.pairwise_map]
    -- The backups of two subjects already differ, and so do their names.
    refine hdistinct.2.imp_of_mem fun {d e} hd he hdiffer hsame => ?_
    have hending : backupEnding ∈ endings := by simp [endings]
    refine hdiffer _ (List.mem_map.mpr ⟨backupEnding, hending, rfl⟩) _
      (List.mem_map.mpr ⟨backupEnding, hending, rfl⟩) ?_
    rw [parts_path_eq_iff ((hfolder d hd).trans (hfolder e he).symm) hending hending]
    exact ⟨hsame, rfl⟩
  · rintro ⟨hfolder, hnames⟩
    refine ⟨?_, inside_iff.mpr hfolder⟩
    rw [List.nodup_iff_pairwise_ne, List.pairwise_map] at hnames
    rw [hlist, List.nodup_iff_pairwise_ne, List.pairwise_flatMap]
    constructor
    · -- The two dumps of one subject differ in their endings.
      intro d _
      have hne : backupEnding ≠ restoreEnding := by decide
      rw [List.pairwise_map]
      refine List.Pairwise.imp_of_mem (fun {x y} hx hy hxy hsame => hxy ?_)
        (List.pairwise_pair.mpr hne)
      exact ((parts_path_eq_iff rfl hx hy).mp hsame).2
    · refine hnames.imp_of_mem fun {d e} hd he hdiffer p hp q hq hsame => hdiffer ?_
      obtain ⟨ending, hending, rfl⟩ := List.mem_map.mp hp
      obtain ⟨other, hother, rfl⟩ := List.mem_map.mp hq
      exact ((parts_path_eq_iff ((hfolder d hd).trans (hfolder e he).symm) hending hother).mp
        hsame).1

end

/-- Which files the dumps of a database are. Every backup copies to one path, that of its subject,
every later dump to another one, and a comparison that succeeds has compared the files at these two
paths. The paths of any subjects lead to different files right in the data directory exactly when
each name leads there with what it has up to its last slash, and no two names agree behind it. Among
names without a slash that comes down to the names being different. -/
theorem dumps_apart_iff (site : Site σ) (database : String) :
    (∀ d : DumpSubject,
      Makes (CopiesTo (d.path site database backupEnding)) site (d.backUp database) ∧
        Makes (CopiesTo (d.path site database restoreEnding)) site (d.validate database) ∧
        ∀ w w', runAt (d.validate database) site w = (.ok (), w') →
          SameContent w'.files site.place (d.path site database backupEnding)
            (d.path site database restoreEnding)) ∧
      ∀ subjects : List DumpSubject,
        (Apart site (dumpPaths site database subjects) ↔
          (∀ d ∈ subjects, folder site (d.stem database) = dataParts site) ∧
            (subjects.map fun d => Path.trailing (d.stem database)).Nodup) ∧
        ((∀ d ∈ subjects, '/' ∉ (d.stem database).toList) →
          (Apart site (dumpPaths site database subjects) ↔
            (subjects.map fun d => d.stem database).Nodup)) := by
  refine ⟨fun d => ⟨copiesTo_backUp d, copiesTo_validate d, fun w w' => sameContent_of_validate⟩,
    fun subjects => ⟨apart_iff, fun hslash => ?_⟩⟩
  have hfolder : ∀ d ∈ subjects, folder site (d.stem database) = dataParts site :=
    fun d hd => folder_of_not_slash site (hslash d hd)
  have hnames : (subjects.map fun d => Path.trailing (d.stem database)) =
      subjects.map fun d => d.stem database :=
    List.map_congr_left fun d hd => (Path.trailing_of_not_slash (hslash d hd)).2
  rw [apart_iff, hnames]
  exact ⟨And.right, fun hdistinct => ⟨hfolder, hdistinct⟩⟩

/-- A world whose server lists the one table `b_dist_policy` of the schema `a`, and then tells the
order of its only column. -/
def policyNamesakeWorld : World (List (List Sql.Row)) where
  server := [[.ofTexts ["a", "b_dist_policy"]], [.ofTexts ["1"]]]
  files := ⟨[]⟩
  calls := []
  log := []

/-- Backing up this table in the database `a.b`, and then the distribution policy, copies both to one
file. Two tables share their files when a dot goes from one name to the other, and a schema that
starts with a slash takes the dumps out of the data directory. -/
theorem dumps_share_files :
    (runAt (do backupDatabase "a.b"; backupPolicy "a.b") (dataSite replaying)
        policyNamesakeWorld).2.calls =
      [.query { database := "a.b" } Sql.Statement.userTables,
        .query { database := "a.b" } (Sql.Statement.columnOrder "a.b_dist_policy"),
        .execute { database := "a.b" } (Sql.Statement.copyTable "a.b_dist_policy" "1"
          "/data/a.b_dist_policy_backup"),
        .execute { database := "a.b" } (Sql.Statement.copyDistributionPolicy
          "/data/a.b_dist_policy_backup")] ∧
      ¬Apart (dataSite replaying) (dumpPaths (dataSite replaying) "a.b"
        [.table ⟨"a", "b_dist_policy"⟩, .policy]) ∧
      ¬Apart (dataSite replaying) (dumpPaths (dataSite replaying) "db"
        [.table ⟨"a.b", "c"⟩, .table ⟨"a", "b.c"⟩]) ∧
      ¬Apart (dataSite replaying) (dumpPaths (dataSite replaying) "db"
        [.table ⟨"/etc", "x"⟩]) := by
  refine ⟨rfl, fun hpolicy => ?_, fun hdots => ?_, fun hslash => ?_⟩
  · exact absurd (apart_iff.mp hpolicy).2 (by decide)
  · exact absurd (apart_iff.mp hdots).2 (by decide)
  · -- These dumps are right below the root.
    have hfolder := (apart_iff.mp hslash).1 (.table ⟨"/etc", "x"⟩) (by simp)
    exact absurd hfolder (by decide)

end ClusterFixture.Op
