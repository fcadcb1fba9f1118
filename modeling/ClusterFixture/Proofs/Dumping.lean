/-
What a dump does, step by step, and what a comparison of dumps answers.

A dump asks for the order of the columns and then has the server copy the table; both statements
may fail, and the server alone touches the files. A comparison reads two files and changes nothing.
The endings of the two dumps of a table keep their names apart.
-/

import ClusterFixture.Operation.Dumps
import ClusterFixture.Proofs.Running

set_option autoImplicit false

namespace ClusterFixture

variable {σ : Type}

/-! ## Paths in the data directory -/

namespace Path

theorem join_ne_empty (dir name : String) (hname : name ≠ "") : join dir name ≠ "" := by
  rw [join]
  split
  · exact hname
  · split
    · intro h
      exact hname (String.append_eq_empty_iff.mp h).2
    · intro h
      exact hname (String.append_eq_empty_iff.mp h).2

/-- Only the empty path cannot be made absolute. -/
theorem exists_absolute (cwd path : String) (hpath : path ≠ "") :
    ∃ full, absolute cwd path = .ok full := by
  have hempty : path.isEmpty = false := by simpa using hpath
  rw [absolute, hempty]
  exact ⟨_, rfl⟩

end Path

/-- The absolute path of a file in the data directory of a site. -/
def Site.dataPath (site : Site σ) (name : String) : String :=
  match Path.absolute site.directory (Path.join site.settings.dataDirectory name) with
  | .ok path => path
  | .error _ => ""

namespace Op

theorem runAt_dataFile (name : String) (hname : name ≠ "") (site : Site σ) (w : World σ) :
    runAt (dataFile name) site w = (.ok (site.dataPath name), w) := by
  obtain ⟨full, hfull⟩ := Path.exists_absolute site.directory
    (Path.join site.settings.dataDirectory name) (Path.join_ne_empty _ _ hname)
  rw [dataFile, runAt_bind_ok (runAt_read site w), runAt_bind_ok (runAt_settings site w),
    Site.dataPath, hfull]
  rfl

/-! ## Dumps -/

theorem append_backupEnding_ne_empty (table : String) : table ++ backupEnding ≠ "" := fun h =>
  absurd (String.append_eq_empty_iff.mp h).2 (by decide)

theorem append_restoreEnding_ne_empty (table : String) : table ++ restoreEnding ≠ "" := fun h =>
  absurd (String.append_eq_empty_iff.mp h).2 (by decide)

/-- The text in the first column of the first row of an answer, if the answer has it. -/
def singleOf (statement : String) : Checked (List Sql.Row) → Checked String
  | .error f => .error f
  | .ok rows =>
    match rows.head?.bind fun row => row.text? 0 with
    | some value => .ok value
    | none => .error (noAnswer statement)

theorem runAt_single (database statement : String) (site : Site σ) (w : World σ) :
    runAt (single database statement) site w =
      (singleOf statement
          ((site.services.query { database } statement).run (w.server, w.files)).1,
        (w.noted (sending "querying" { database } statement)).served
          (.query { database } statement)
          ((site.services.query { database } statement).run (w.server, w.files)).2) := by
  have hrun : runAt (single database statement) site w =
      runAt (do
        let rows ← queryAt { database } statement
        match rows.head?.bind fun row => row.text? 0 with
        | some value => pure value
        | none => throw (noAnswer statement)) site w := by
    rw [single, firstRow?, query, bind_assoc]
    rfl
  rw [hrun, runAt_bind, runAt_queryAt]
  rcases (site.services.query { database } statement).run (w.server, w.files) with ⟨_ | rows, after⟩
  · rfl
  · simp only [singleOf]
    rcases rows.head?.bind fun row => row.text? 0 with _ | value <;> rfl

/-- What a server answers when it is asked for the order of the columns of a table. -/
def orderAnswer (site : Site σ) (w : World σ) (table database : String) :
    Checked String × (σ × FileTree) :=
  let answer := (site.services.query { database } (Sql.Statement.columnOrder table)).run
    (w.server, w.files)
  (singleOf (Sql.Statement.columnOrder table) answer.1, answer.2)

/-- What a server answers when it is to copy a table, after it was asked for the order. -/
def copyAnswer (site : Site σ) (w : World σ) (file table database order : String) :
    Checked Unit × (σ × FileTree) :=
  (site.services.execute { database }
    (Sql.Statement.copyTable table order (site.dataPath file))).run
    (orderAnswer site w table database).2

/-- How a dump ends: with the fault of its first statement that fails. -/
def dumpAnswer (site : Site σ) (w : World σ) (file table database : String) : Checked Unit :=
  match (orderAnswer site w table database).1 with
  | .error f => .error f
  | .ok order => (copyAnswer site w file table database order).1

/-- The server and the files as the last statement of a dump leaves them. -/
def dumpLeaves (site : Site σ) (w : World σ) (file table database : String) : σ × FileTree :=
  match (orderAnswer site w table database).1 with
  | .error _ => (orderAnswer site w table database).2
  | .ok order => (copyAnswer site w file table database order).2

/-- The calls of a dump: without an order of the columns nothing is copied. -/
def dumpCalls (site : Site σ) (w : World σ) (file table database : String) : List Call :=
  .query { database } (Sql.Statement.columnOrder table) ::
    match (orderAnswer site w table database).1 with
    | .error _ => []
    | .ok order => [.execute { database }
        (Sql.Statement.copyTable table order (site.dataPath file))]

theorem went_copyTable (file table database : String) (hfile : file ≠ "") (site : Site σ)
    (w : World σ) :
    ∃ w', runAt (copyTable file table database) site w =
        (dumpAnswer site w file table database, w') ∧
      Went w (dumpCalls site w file table database) (dumpLeaves site w file table database) w' := by
  rw [copyTable, runAt_bind_ok (runAt_dataFile file hfile site w), runAt_bind, runAt_single]
  have horder : (orderAnswer site w table database).1 =
      singleOf (Sql.Statement.columnOrder table)
        ((site.services.query { database } (Sql.Statement.columnOrder table)).run
          (w.server, w.files)).1 := rfl
  rw [← horder, dumpAnswer, dumpLeaves, dumpCalls]
  rcases (orderAnswer site w table database).1 with f | order
  · exact ⟨_, rfl, rfl, rfl, rfl⟩
  · simp only []
    rw [runAt_bind_ok (runAt_log _ _ _ _ _ _), execute, runAt_executeAt]
    exact ⟨_, rfl, List.append_assoc .., rfl, rfl⟩

/-- Dumping a table never fails, however its statements end. -/
theorem went_dumpTable (file table database : String) (hfile : file ≠ "") (site : Site σ)
    (w : World σ) :
    ∃ w', runAt (dumpTable file table database) site w = (.ok (), w') ∧
      Went w (dumpCalls site w file table database) (dumpLeaves site w file table database) w' := by
  obtain ⟨w', hrun, hwent⟩ := went_copyTable file table database hfile site w
  rw [dumpTable, runAt_bind_ok (runAt_attempt _ _ _), hrun]
  rcases dumpAnswer site w file table database with f | _
  · exact ⟨_, rfl, hwent.noted _⟩
  · exact ⟨_, rfl, hwent⟩

/-! ## Comparisons -/

/-- Two paths lead to readable files of the same content. -/
def SameContent (files : FileTree) (here : Place) (a b : String) : Prop :=
  ∃ content, files.read here a = .ok content ∧ files.read here b = .ok content

/-- The fault of a comparison of two files that differ. -/
def differing (backup restore : String) : Fault :=
  .detailed .dataMismatch "Backup and restore data differ"
    (backup ++ " and " ++ restore ++ " do not match")

/-- A comparison only looks at the files. -/
theorem runAt_compareFiles (backup restore : String) (site : Site σ) (w : World σ) :
    runAt (compareFiles backup restore) site w =
      ((match w.files.read site.place backup, w.files.read site.place restore with
        | .error e, _ => .error (.io e.message)
        | .ok _, .error e => .error (.io e.message)
        | .ok before, .ok after =>
          if before = after then .ok () else .error (differing backup restore)),
        w) := by
  rcases hbackup : w.files.read site.place backup with e | before
  · exact runAt_bind_error (runAt_onFiles_error hbackup) _
  · rw [compareFiles, runAt_bind_ok (runAt_onFiles_ok hbackup)]
    rcases hrestore : w.files.read site.place restore with e | after
    · exact runAt_bind_error (runAt_onFiles_error hrestore) _
    · rw [runAt_bind_ok (runAt_onFiles_ok hrestore)]
      by_cases hsame : before = after
      · simp [hsame]
      · simp [hsame, differing]

/-- A comparison succeeds exactly when both files can be read and hold the same. -/
theorem compareFiles_eq_ok_iff (backup restore : String) (site : Site σ) (w : World σ) :
    (runAt (compareFiles backup restore) site w).1 = .ok () ↔
      SameContent w.files site.place backup restore := by
  rw [runAt_compareFiles, SameContent]
  rcases w.files.read site.place backup with e | before
  · simp
  · rcases w.files.read site.place restore with e | after
    · simp
    · by_cases hsame : before = after
      · simp [hsame]
      · simp [hsame, eq_comm]

end Op

end ClusterFixture
