/-
Creating, filling, changing and removing the tables of a scenario. Of all this only the statements
are noted in the log.
-/

import ClusterFixture.Operation.Catalog

set_option autoImplicit false

namespace ClusterFixture.Op

open ClusterFixture.Sql (Storage RelationKind)
open ClusterFixture.Number (decimal)

variable {σ : Type}

/-! ## Removing -/

/-- A table that is still there. -/
def stillThere (table : String) : Fault :=
  .detailed .assertionFailed "Unable to successfully drop the table" table

/-- Removes a table, and checks that it is not found any more. -/
def dropTable (table database : String) : Op σ Unit := do
  execute database (Sql.Statement.dropTable table)
  if ← tableExists database table none then throw (stillThere table)

/-- Removes a table if it is found. -/
def dropTableIfPresent (table database : String) : Op σ Unit := do
  if ← tableExists database table none then dropTable table database

/-- Removes an external table, and checks that it is not found any more. -/
def dropExternalTable (table database : String) : Op σ Unit := do
  execute database (Sql.Statement.dropExternalTable table)
  if ← tableExists database table (some .external) then throw (stillThere table)

/-- Removes an external table if it is found. -/
def dropExternalTableIfPresent (table database : String) : Op σ Unit := do
  if ← tableExists database table (some .external) then dropExternalTable table database

/-! ## Creating -/

/-- Creates a table of the first thousand integers in the storage that a word names. -/
def createIntegerTable (table kind database : String) : Op σ Unit := do
  let storage ← check (Storage.ofWord kind)
  execute database (Sql.Statement.createIntegerTable table storage)
  let rows ← count database (Sql.Statement.rowCount table)
  if rows != Sql.Statement.integerTableRows then
    throw (.detailed .assertionFailed "Integer table creation was not successful"
      ("Expected " ++ Sql.Statement.integerTableRows.repr ++ " does not match " ++ decimal rows))

/-- Fills a partitioned table. -/
def populatePartition (table start database : String) (offset rowcount : Nat) : Op σ Unit :=
  execute database (Sql.Statement.populatePartition table start offset rowcount)

/-- Creates the partitioned fixture table and fills it. -/
def createPartition (table : String) (storage : Storage) (database : String)
    (compression : Option String) (partitioned : Bool) (rowcount : Nat) : Op σ Unit := do
  execute database (Sql.Statement.createPartition table storage compression partitioned)
  populatePartition table Sql.Statement.partitionStart database 0 rowcount

/-- Fills a partitioned table with the usual rows. -/
def populatePartitionSameData (table database : String) : Op σ Unit :=
  populatePartition table Sql.Statement.partitionStart database 0 Sql.Statement.defaultRowCount

/-- Fills a partitioned table with as many rows of other values. -/
def populatePartitionOtherData (table database : String) : Op σ Unit :=
  populatePartition table Sql.Statement.partitionStart database 1 Sql.Statement.defaultRowCount

/-- Creates the table with a partition of every storage, and fills it. -/
def createMixedStoragePartition (table database : String) : Op σ Unit := do
  execute database (Sql.Statement.createMixedStoragePartition table)
  populatePartitionSameData table database

/-- The rows of the table with an external partition. -/
def externalPartitionRows : Nat := 100

/-- Creates the table with a partition that reads a file served by the master, and fills it. -/
def createExternalPartition (table database : String) (port : Nat) (file : String) :
    Op σ Unit := do
  match (← masterHosts database).head? with
  | none =>
    throw (.plain .emptyResult "Master hostname not found in gp_segment_configuration")
  | some master =>
    execute database (Sql.Statement.createExternalPartition table master port file)
    populatePartition table Sql.Statement.partitionStart database 0 externalPartitionRows

/-- Adds a default partition with rows of its own. -/
def addPartition (number : Nat) (table database : String) : Op σ Unit :=
  execute database (Sql.Statement.addPartition number table)

/-- Removes a partition. -/
def dropPartition (number : Nat) (table database : String) : Op σ Unit :=
  execute database (Sql.Statement.dropPartition number table)

/-- Creates a table with very many partitions, and checks that the catalog has it once. -/
def createManyPartitions (storage : Storage) (table database : String) (partitions : Option Nat) :
    Op σ Unit := do
  execute database (Sql.Statement.createManyPartitions storage table partitions)
  let rows ← count database (Sql.Statement.relationCount table)
  if rows != 1 then
    throw (.detailed .assertionFailed "Creation of table failed"
      (database ++ ":" ++ table ++ ", num rows in pg_class = " ++ decimal rows))

/-- Creates a heap table shaped like one of tuple counts. -/
def createFakeSegmentTable (table database : String) : Op σ Unit :=
  execute database (Sql.Statement.createFakeSegmentTable table)

/-! ## Indexes -/

/-- Fails unless a table has exactly two indexes. -/
def validateIndexes (table database : String) : Op σ Unit := do
  let rows ← query database (Sql.Statement.indexRows table)
  if rows.length != 2 then
    throw (.detailed .assertionFailed "Index creation was not successful"
      ("Expected 2 rows does not match " ++ rows.length.repr ++ " rows"))

/-- Creates two indexes on a table, and checks that they are all it has. -/
def createIndexes (table index database : String) : Op σ Unit := do
  execute database (Sql.Statement.createIndexes table index)
  validateIndexes table database

/-! ## Changing -/

/-- How often the row is appended. -/
def appendedRows : Nat := 10

/-- The year of one of the first three partitions. -/
def partitionYear (partition : Nat) : Checked String :=
  match partition with
  | 1 => .ok "2010"
  | 2 => .ok "2011"
  | 3 => .ok "2012"
  | other => .error (.detailed .invalidInput "BAD PARAM to modify_partition_data" other.repr)

/-- Runs the same command a number of times; each must end well. -/
def repeatCommand (c : Command) : Nat → Op σ Unit
  | 0 => pure ()
  | n + 1 => do
    discard (run c)
    repeatCommand c n

/-- Appends the last row of the year of a partition over and over. -/
def modifyPartitionData (table database : String) (partition : Nat) : Op σ Unit := do
  let year ← check (partitionYear partition)
  let c ← localCommand ("insert data into " ++ table)
    ("echo \"90,backup," ++ year ++ "-12-30\" | psql -d " ++ database ++ " -c \"copy " ++ table
      ++ " from stdin delimiter ',';\"")
  repeatCommand c appendedRows

/-- Doubles the rows of a table by copying it onto itself. -/
def modifyData (table database : String) : Op σ Unit := do
  let c ← localCommand ("insert data into " ++ table)
    ("psql -d " ++ database ++ " -c \"copy " ++ table ++ " to stdout;\" | psql -d " ++ database
      ++ " -c \"copy " ++ table ++ " from stdin;\"")
  discard (run c)

/-- Empties a table. -/
def truncateTable (database table : String) : Op σ Unit :=
  execute database (Sql.Statement.truncate table)

/-- Inserts the integers of a range. -/
def insertNumbers (database table : String) (low high : Int) : Op σ Unit :=
  execute database (Sql.Statement.insertNumbers table low high)

/-- Inserts a row, its values given as a statement writes them. -/
def insertRow (values table database : String) : Op σ Unit :=
  execute database (Sql.Statement.insertRow table values)

/-- Deletes the rows with a value in a column. -/
def deleteRows (database table column value : String) : Op σ Unit :=
  execute database (Sql.Statement.deleteRows table column value)

/-- Collects statistics of a whole database. -/
def analyzeDatabase (database : String) : Op σ Unit := execute database Sql.Statement.analyze

end ClusterFixture.Op
