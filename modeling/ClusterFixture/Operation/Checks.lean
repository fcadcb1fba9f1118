/-
Checks on the data and the statistics of tables.
-/

import ClusterFixture.Operation.Catalog

set_option autoImplicit false

namespace ClusterFixture.Op

open ClusterFixture.Sql (Row AppendOnlyTable)
open ClusterFixture.Number (decimal)

variable {σ : Type}

/-! ## Data on segments -/

/-- Fails at the first row of a count per segment that is zero. -/
def checkSegmentCounts : List Row → Checked Unit
  | [] => .ok ()
  | row :: rest => do
    if (← row.integer 1) == 0 then
      throw (.detailed .dataMismatch "Data not present in segment" (← row.text 0))
    checkSegmentCounts rest

/-- Fails when the server reports a segment without rows of a table. -/
def checkDataOnSegments (table database : String) : Op σ Unit := do
  check (checkSegmentCounts (← query database (Sql.Statement.segmentRowCounts table)))

/-- Fails when the server reports a segment without rows of a partition of a table. -/
def checkPartitionsOnSegments (table : String) (level : Nat) (database : String) :
    Op σ Unit := do
  (← partitionTables table database level).forM fun p => checkDataOnSegments p database

/-! ## Storage of partitions -/

/-- Fails at the first row of a listing whose storage is not the expected one. -/
def checkStorageRows (partition storage : String) : List Row → Checked Unit
  | [] => .ok ()
  | row :: rest => do
    let actual := Text.trim (← row.text 1)
    if actual != Text.trim storage then
      throw (.detailed .assertionFailed "The storage type of the partition is not as expected"
        (partition ++ " has " ++ actual ++ ", expected " ++ storage))
    checkStorageRows partition storage rest

/-- Fails unless the storage of a partition is the expected one. -/
def checkStorage (partition storage database : String) : Op σ Unit := do
  check (checkStorageRows partition storage
    (← query database (Sql.Statement.relationStorage partition)))

/-- The storage of each partition of the table with a partition of every storage. -/
def mixedStorage (position : Nat) : String :=
  if position ∈ [0, 2, 5, 7] then "c"
  else if position ∈ [1, 3, 6, 8] then "a"
  else "h"

/-- Checks the storage of partitions from a position on. -/
def checkMixedFrom (database : String) (position : Nat) : List String → Op σ Unit
  | [] => pure ()
  | p :: rest => do
    checkStorage p (mixedStorage position) database
    checkMixedFrom database (position + 1) rest

/-- Checks the storage of the partitions of the table with a partition of every storage. -/
def checkMixedStorage (table database : String) : Op σ Unit := do
  checkMixedFrom database 0 (← partitionTables table database 1)

/-! ## Statistics -/

/-- Fails unless a table has as many rows as its statistics say. -/
def checkTupleCount (database schema table : String) (tuples : Int) : Op σ Unit := do
  let rows ← count database (Sql.Statement.rowCount (schema ++ "." ++ table))
  if rows != tuples then
    throw (.detailed .dataMismatch "Stats for the table does not match"
      (schema ++ "." ++ table ++ ": stat count \"" ++ decimal tuples
        ++ "\" does not match the actual tuple count \"" ++ decimal rows ++ "\""))

/-- The sum of tuple counts that an answer holds; without one it is zero. -/
def readTupleSum (row : Option Row) : Checked Int :=
  match row.bind fun r => r.text? 0 with
  | none => .ok 0
  | some value =>
    match Number.readInteger (Number.signedRange 64) (Text.trim value) with
    | .ok n => .ok n
    | .error f => .error (.integer f)

/-- Compares the tuple counts of tables with their rows. -/
def checkStatistics (database : String) (tables : List AppendOnlyTable) : Op σ Unit :=
  tables.forM fun t => do
    let row ← firstRow? database (Sql.Statement.tupleSum t.tupleTable)
    checkTupleCount database t.schema t.table (← check (readTupleSum row))

/-- Fails when any tuple counts are kept for a table. -/
def checkNoStatistics (database table : String) : Op σ Unit := do
  let tupleTable ← single database (Sql.Statement.tupleTableName table)
  match (← query database (Sql.Statement.tupleCount tupleTable)).head? with
  | none => pure ()
  | some first =>
    throw (.detailed .dataMismatch "Table has stats and should have none"
      (table ++ " has stats of " ++ (first.text? 0).getD "NULL" ++ " rows in "
        ++ Text.trim tupleTable ++ " table and should be 0"))

/-! ## Recorded operations -/

/-- The columns of a recorded operation. -/
def recordedColumns : Nat := 7

/-- Fails unless a row records a truncation without a subtype. -/
def checkTruncateRow (row : Row) : Checked Unit := do
  if row.size != recordedColumns then
    throw (.detailed .assertionFailed "Invalid number of columns" row.size.repr)
  let action := (row.text? 2).getD ""
  if action != "TRUNCATE" then
    throw (.detailed .assertionFailed "Actiontype not expected TRUNCATE" action)
  let subtype := (row.text? 5).getD ""
  if !subtype.isEmpty then
    throw (.detailed .assertionFailed "Subtype for TRUNCATE operation is not empty" subtype)

/-- Fails unless a truncation is recorded for an object. -/
def checkTruncated (database : String) (oid : Nat) : Op σ Unit := do
  match ← firstRow? database (Sql.Statement.lastTruncate oid) with
  | none =>
    throw (.detailed .emptyResult "No TRUNCATE recorded in pg_stat_last_operation" oid.repr)
  | some row => check (checkTruncateRow row)

/-- Fails when a truncation is recorded for an object. -/
def checkNotTruncated (database : String) (oid : Nat) : Op σ Unit := do
  let statement := Sql.Statement.lastTruncateCount oid
  let rows ← count database statement
  if rows != 0 then
    throw (.detailed .assertionFailed "Unexpected TRUNCATE in pg_stat_last_operation"
      ("Found " ++ decimal rows ++ " rows from query '" ++ statement ++ "' should be 0"))

/-! ## Estimates -/

/-- Whether two answers have the same numbers in their first columns, row by row. -/
def sameNumbers : List Row → List Row → Checked Bool
  | a :: as, b :: bs => do
    if (← a.number 0).same (← b.number 0) then sameNumbers as bs else return false
  | _, _ => .ok true

/-- Whether the estimate of a table's rows is their number, as it is after collecting statistics. -/
def isAnalyzed (table database : String) : Op σ Bool := do
  let counts ← query database (Sql.Statement.rowCount table)
  let relation := match Text.cutAt '.' table.toList with
    | some (_, name) => String.ofList name
    | none => table
  let estimates ← query database (Sql.Statement.estimatedRows relation)
  if counts.length != estimates.length then return false
  else check (sameNumbers counts estimates)

/-! ## Transfers -/

/-- Compares the rows of a table here and on the source of a transfer. -/
def compareWithSource (table database : String) (order : Option String) : Op σ Unit := do
  match (← settings).transferSource with
  | none => throw (.plain .configError "gptransfer source is not configured")
  | some source =>
    let select := match order with
      | some o => "select * from " ++ table ++ " order by " ++ o
      | none => "select * from " ++ table
    let here ← runLoosely ("psql -d " ++ database ++ " -c '" ++ select ++ "'")
    let there ← runLoosely ("psql -p " ++ source.port.repr ++ " -h " ++ source.host ++ " -U "
      ++ source.user ++ " -d " ++ database ++ " -c '" ++ select ++ "'")
    if here.stdout != there.stdout then
      throw (.detailed .dataMismatch "Table differs between source and destination system"
        ("table " ++ table ++ " in database " ++ database))

end ClusterFixture.Op
