/-
What the comparison of a table with its backup reports, and what it does not.

Comparing a table dumps it again and compares the two files. A dump that fails is passed over, on
the ground that the file is then missing or stale. So the comparison speaks of the files that it
finds and not of the dump: it succeeds exactly when both files can be read and hold the same. A file
of an earlier run that happens to agree hides a dump that failed.
-/

import ClusterFixture.Proofs.Dumping
import ClusterFixture.Proofs.Files

set_option autoImplicit false

namespace ClusterFixture.Op

variable {σ : Type}

/-- Both statements of a dump succeed: the server answers an order of the columns, and copies. -/
def DumpSucceeds (site : Site σ) (w : World σ) (file table database : String) : Prop :=
  ∃ order, (orderAnswer site w table database).1 = .ok order ∧
    (copyAnswer site w file table database order).1 = .ok ()

/-- Comparing a table dumps it again under its trimmed name and then compares two files. -/
theorem went_validateTable (table database : String) (site : Site σ) (w : World σ) :
    ∃ w', Went w (dumpCalls site w (Text.trim table ++ restoreEnding) (Text.trim table) database)
        (dumpLeaves site w (Text.trim table ++ restoreEnding) (Text.trim table) database) w' ∧
      runAt (validateTable table database) site w =
        runAt (compareFiles (site.dataPath (Text.trim table ++ backupEnding))
          (site.dataPath (Text.trim table ++ restoreEnding))) site w' := by
  obtain ⟨w', hdump, hwent⟩ := went_dumpTable (Text.trim table ++ restoreEnding)
    (Text.trim table) database (append_restoreEnding_ne_empty _) site w
  refine ⟨w', hwent, ?_⟩
  rw [validateTable, runAt_bind_ok hdump,
    runAt_bind_ok (runAt_dataFile _ (append_backupEnding_ne_empty _) site w'),
    runAt_bind_ok (runAt_dataFile _ (append_restoreEnding_ne_empty _) site w')]

/-- The files as the new dump of a comparison leaves them. -/
def filesLeft (site : Site σ) (w : World σ) (table database : String) : FileTree :=
  (dumpLeaves site w (Text.trim table ++ restoreEnding) (Text.trim table) database).2

/-- The backup of a table and its new dump hold the same. -/
def DumpsAgree (site : Site σ) (files : FileTree) (table : String) : Prop :=
  SameContent files site.place (site.dataPath (Text.trim table ++ backupEnding))
    (site.dataPath (Text.trim table ++ restoreEnding))

theorem validateTable_eq_ok_iff (table database : String) (site : Site σ) (w : World σ) :
    (runAt (validateTable table database) site w).2.files = filesLeft site w table database ∧
      ((runAt (validateTable table database) site w).1 = .ok () ↔
        DumpsAgree site (filesLeft site w table database) table) := by
  obtain ⟨w', hwent, hrun⟩ := went_validateTable table database site w
  have hfiles : w'.files = filesLeft site w table database := hwent.files
  constructor
  · rw [hrun, runAt_compareFiles, hfiles]
  · rw [hrun, compareFiles_eq_ok_iff, hfiles, DumpsAgree]

/-- A comparison succeeds exactly when the files that the new dump left behind agree, whether that
dump succeeded or not. So what it is for, that a success vouches for a dump of this call and for its
agreement with the backup, holds exactly when both statements of the dump succeed, or when the files
do not agree anyway. -/
theorem validateTable_vouches_iff (table database : String) (site : Site σ) (w : World σ) :
    let name := Text.trim table
    let run := runAt (validateTable table database) site w
    let dumped := DumpSucceeds site w (name ++ restoreEnding) name database
    let agree := DumpsAgree site (filesLeft site w table database) table
    run.2.files = filesLeft site w table database ∧ (run.1 = .ok () ↔ agree) ∧
      ((run.1 = .ok () → dumped ∧ agree) ↔ dumped ∨ ¬agree) := by
  intro name run dumped agree
  have hrun := validateTable_eq_ok_iff table database site w
  have hagree : run.1 = .ok () ↔ agree := by
    simp only [run, agree, hrun.2]
  refine ⟨?_, hagree, ?_⟩
  · simp only [run, hrun.1]
  · rw [hagree]
    constructor
    · intro h
      by_cases hsame : agree
      · exact .inl (h hsame).1
      · exact .inr hsame
    · rintro (hdumped | hdiffer) hsame
      · exact ⟨hdumped, hsame⟩
      · exact absurd hsame hdiffer

/-! ## A dump that fails unnoticed -/

/-- When the server refuses to tell the order of the columns and leaves the files alone, a
comparison speaks of the files of earlier runs. -/
theorem validateTable_of_refused (table database : String) (site : Site σ) (w : World σ) {f : Fault}
    (hrefused : (orderAnswer site w (Text.trim table) database).1 = .error f)
    (hfiles : (orderAnswer site w (Text.trim table) database).2.2 = w.files) :
    ¬DumpSucceeds site w (Text.trim table ++ restoreEnding) (Text.trim table) database ∧
      ((runAt (validateTable table database) site w).1 = .ok () ↔
        DumpsAgree site w.files table) := by
  constructor
  · rintro ⟨order, horder, _⟩
    rw [hrefused] at horder
    cases horder
  · rw [(validateTable_eq_ok_iff table database site w).2, filesLeft, dumpLeaves, hrefused]
    simp only []
    rw [hfiles]

/-- A site with the usual settings, whose dumps go to a directory right below the root. -/
def dataSite (services : Services σ) : Site σ where
  services := services
  settings :=
    { Settings.Harness.new ⟨"localhost", 15432, "template1", "gpadmin", none, {}⟩ "/master" with
      dataDirectory := "/data" }

/-- A server that refuses everything. -/
def refusing : Services Unit where
  query _ _ := fun state => (.error (.plain .queryFailed "db error"), state)
  execute _ _ := fun state => (.error (.plain .queryFailed "db error"), state)
  run _ := fun state => (.error (.plain .commandFailed "no commands"), state)

/-- A data directory with both dumps of an earlier run. -/
def staleFiles : FileTree :=
  ⟨[(["data"], .directory newDirectoryMode),
    (["data", "public.t_backup"], .file [48, 9, 49, 10] newFileMode),
    (["data", "public.t_restore"], .file [48, 9, 49, 10] newFileMode)]⟩

theorem dumpsAgree_staleFiles : DumpsAgree (dataSite refusing) staleFiles "public.t" := by
  have hbackup : (dataSite refusing).dataPath (Text.trim "public.t" ++ backupEnding) =
      "/data/public.t_backup" := by
    decide
  have hrestore : (dataSite refusing).dataPath (Text.trim "public.t" ++ restoreEnding) =
      "/data/public.t_restore" := by
    decide
  have hdir : staleFiles.node? ["data"] = some (.directory newDirectoryMode) := rfl
  have hslot : ∀ name ∈ ["public.t_backup", "public.t_restore"],
      FileTree.Slot staleFiles [] ("/data/" ++ name) ["data"] name ∧
        staleFiles.Holds (["data"] ++ [name]) [48, 9, 49, 10] := by
    have hlegal : ∀ name ∈ ["public.t_backup", "public.t_restore"],
        '\x00' ∉ ("/data/" ++ name).toList ∧ ("/data/" ++ name).isEmpty = false ∧
        ("/data/" ++ name).utf8ByteSize ≤ FileTree.pathLimit ∧
        FileTree.asksDirectory ("/data/" ++ name) = false := by
      decide
    have hfollow : ∀ name ∈ ["public.t_backup", "public.t_restore"],
        staleFiles.follow (FileTree.start [] ("/data/" ++ name)) (Path.parts ("/data/" ++ name)) =
          .ok (["data"] ++ [name]) := by
      intro name hname
      rw [List.mem_cons, List.mem_singleton] at hname
      rcases hname with rfl | rfl
      · rfl
      · rfl
    have hfile : ∀ name ∈ ["public.t_backup", "public.t_restore"],
        staleFiles.node? (["data"] ++ [name]) = some (.file [48, 9, 49, 10] newFileMode) := by
      decide
    intro name hname
    obtain ⟨hnul, hempty, hshort, hplain⟩ := hlegal name hname
    exact ⟨.of_lookup hnul hempty hshort hplain (hfollow name hname) hdir
      (.inr ⟨_, _, hfile name hname, FileTree.isOpen_newFileMode⟩), _, hfile name hname⟩
  rw [DumpsAgree, hbackup, hrestore]
  obtain ⟨hslot₁, hholds₁⟩ := hslot "public.t_backup" (by simp)
  obtain ⟨hslot₂, hholds₂⟩ := hslot "public.t_restore" (by simp)
  exact ⟨_, hslot₁.read hholds₁, hslot₂.read hholds₂⟩

/-- A world with these files. -/
def staleWorld : World Unit := ⟨(), staleFiles, [], []⟩

/-- The comparison succeeds, although nothing was dumped. -/
theorem validateTable_refused_stale :
    (runAt (validateTable "public.t" "db") (dataSite refusing) staleWorld).1 = .ok () ∧
      ¬DumpSucceeds (dataSite refusing) staleWorld (Text.trim "public.t" ++ restoreEnding)
        (Text.trim "public.t") "db" := by
  obtain ⟨hfailed, hok⟩ := validateTable_of_refused "public.t" "db" (dataSite refusing)
    staleWorld rfl rfl
  exact ⟨hok.mpr dumpsAgree_staleFiles, hfailed⟩

end ClusterFixture.Op
