/-
Looking things up in the catalog. A lookup that fails is not noted in the log.
-/

import ClusterFixture.Operation.Basic
import ClusterFixture.Sql.Statement
import ClusterFixture.Sql.TableName

set_option autoImplicit false

namespace ClusterFixture.Op

open ClusterFixture.Sql (Row TableName AppendOnlyTable RelationKind)
open ClusterFixture.Number (unsignedRange decimal)

variable {σ : Type}

/-! ## Databases, schemas and tables -/

/-- Whether the server lists a database. -/
def databaseExists (database : String) : Op σ Bool := do
  let rows ← queryAt .template Sql.Statement.listDatabases
  return rows.any fun row => row.text? 0 == some database

/-- Whether a database has a schema. -/
def schemaExists (schema database : String) : Op σ Bool := do
  return !(← query database (Sql.Statement.schemaExists schema)).isEmpty

/-- The user tables of a database, without those of temporary schemas. -/
def tableNames (database : String) : Op σ (List TableName) := do
  let rows ← query database Sql.Statement.userTables
  check (rows.mapM fun row => do return ⟨← row.text 0, ← row.text 1⟩)

/-- What a lookup found, and the fault of a lookup that failed, which counts as finding nothing. -/
structure Finding where
  found : Bool
  failure : Option Fault := none
  deriving Repr, Inhabited

/-- Whether a name stands for a relation, of the given kind if one is given. -/
def findTable (database table : String) (kind : Option RelationKind) : Op σ Finding := do
  match ← attempt (firstRow? database (Sql.Statement.tableStorage table)) with
  | .error f => return { found := false, failure := some f }
  | .ok none => return { found := false }
  | .ok (some row) =>
    match kind with
    | none => return { found := true }
    | some expected =>
      let actual ← check (do RelationKind.ofCode (← row.text 2))
      return { found := actual == expected }

/-- Whether a table is found. -/
def tableExists (database table : String) (kind : Option RelationKind) : Op σ Bool :=
  return (← findTable database table kind).found

/-! ## Counting -/

/-- Whether a counting query answers more than zero. -/
def countIsPositive (database statement : String) : Op σ Bool :=
  return 0 < (← count database statement)

/-- Whether a database has a language. -/
def languageExists (database language : String) : Op σ Bool :=
  countIsPositive database (Sql.Statement.languageCount language)

/-- Whether a database has a constraint. -/
def constraintExists (database constraint : String) : Op σ Bool :=
  countIsPositive database (Sql.Statement.constraintCount constraint)

/-- A count that is not what it should be; `what` is a table or a query. -/
def unexpectedCount (database what : String) (actual expected : Int) : Fault :=
  .detailed .assertionFailed "Unexpected row count"
    (decimal actual ++ " rows in table " ++ database ++ "." ++ what ++ ", expected row count = "
      ++ decimal expected)

/-- Fails unless a query answers the expected count. -/
def checkCount (database statement : String) (expected : Int) : Op σ Unit := do
  let actual ← count database statement
  if actual != expected then throw (unexpectedCount database statement actual expected)

/-- Fails unless a table has the expected number of rows. -/
def checkRowCount (table database : String) (expected : Int) : Op σ Unit := do
  let actual ← count database (Sql.Statement.rowCount table)
  if actual != expected then throw (unexpectedCount database table actual expected)

/-- Fails unless a table is there and empty. -/
def checkEmptyTable (table database : String) : Op σ Unit := checkRowCount table database 0

/-! ## Columns of text -/

/-- One column of all rows, without the blanks around the texts. -/
def column (database statement : String) (i : Nat) : Op σ (List String) := do
  let rows ← query database statement
  check (rows.mapM fun row => do return Text.trim (← row.text i))

/-- The child partitions of a table at a level. -/
def partitionTables (table database : String) (level : Nat) : Op σ (List String) :=
  column database (Sql.Statement.partitionTables table level) 0

/-- The partitions at a level and position, with their schemas. -/
def partitionNames (schema table database : String) (level position : Nat) :
    Op σ (List String) :=
  column database (Sql.Statement.partitionNames schema table level position) 0

/-- Whether the first partition at a level and position is a relation of the given kind. -/
def findPartition (database schema table : String) (kind : Option RelationKind)
    (level position : Nat) : Op σ Finding := do
  match (← partitionNames schema table database level position).head? with
  | none => return { found := false }
  | some partition => findTable database partition kind

/-- The hosts of the segments. -/
def segmentHosts (database : String) : Op σ (List String) :=
  column database Sql.Statement.segmentHosts 0

/-- The host of the master. -/
def masterHosts (database : String) : Op σ (List String) :=
  column database Sql.Statement.masterHost 0

/-- The hosts with a primary. -/
def primaryHosts (database : String) : Op σ (List String) :=
  column database Sql.Statement.primaryHosts 0

/-- The hosts of the segments, then that of the master. -/
def allHosts (database : String) : Op σ (List String) :=
  return (← segmentHosts database) ++ (← masterHosts database)

/-- The host and the data directory of every primary. -/
def hostsAndDirectories (database : String) : Op σ (List (String × String)) := do
  let rows ← query database Sql.Statement.hostsAndDirectories
  check (rows.mapM fun row => do return (Text.trim (← row.text 0), Text.trim (← row.text 1)))

/-- The directories of the primaries on a host. -/
def directoriesOfHost (host database : String) : Op σ (List String) :=
  column database (Sql.Statement.directoriesOfHost host) 0

/-! ## Object numbers -/

/-- The object number that a text writes, blanks around it aside. -/
def readOid (text : String) : Checked Nat :=
  match Number.readInteger (unsignedRange 32) (Text.trim text) with
  | .ok n => .ok n.toNat
  | .error f => .error (.integer f)

/-- The object number of a table. -/
def tableOid (database schema table : String) : Op σ Nat := do
  check (readOid (← single database (Sql.Statement.tableOid schema table)))

/-- The append-only table that a row of the listing describes. -/
def appendOnlyTable (row : Row) : Checked AppendOnlyTable := do
  if row.size != 4 then
    throw (.detailed .queryFailed "Invalid results from query to get all AO tables"
      (Text.joinWith "," (row.columns.map fun c => c.getD "")))
  return ⟨← readOid (← row.text 0), Text.trim (← row.text 1), Text.trim (← row.text 2),
    Text.trim (← row.text 3)⟩

/-- The leaf tables with append-only storage of one layout. -/
def appendOnlyTables (layout : Sql.AppendOnlyLayout) (database : String) :
    Op σ (List AppendOnlyTable) := do
  check ((← query database (Sql.Statement.appendOnlyTables layout)).mapM appendOnlyTable)

end ClusterFixture.Op
