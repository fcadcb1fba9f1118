/-
Dumping tables, and comparing the dumps of before a backup with those of after a restore.

The server writes a dump; it gets the absolute path of a file in the data directory. Two dumps of
one table differ in the ending of the name alone.
-/

import ClusterFixture.Operation.Catalog

set_option autoImplicit false

namespace ClusterFixture.Op

open ClusterFixture.Number (decimal)

variable {σ : Type}

/-! ## Files of dumps -/

/-- What the file of a backup ends in. -/
def backupEnding : String := "_backup"

/-- What the file of a restore ends in. -/
def restoreEnding : String := "_restore"

/-- The absolute path of a file in the data directory. -/
def dataFile (name : String) : Op σ String := do
  match Path.absolute (← read).directory (Path.join (← settings).dataDirectory name) with
  | .ok path => return path
  | .error text => throw (.io text)

/-- Fails when two files differ. -/
def compareFiles (backup restore : String) : Op σ Unit := do
  let before ← onFiles fun files here => files.read here backup
  let after ← onFiles fun files here => files.read here restore
  if before != after then
    throw (.detailed .dataMismatch "Backup and restore data differ"
      (backup ++ " and " ++ restore ++ " do not match"))

/-! ## Tables -/

/-- Dumps a table, ordered by all of its columns, into a file of the data directory. -/
def copyTable (file table database : String) : Op σ Unit := do
  let path ← dataFile file
  let order ← single database (Sql.Statement.columnOrder table)
  log .debug .dumps "dumping table data"
    [("dbname", .string database), ("table", .string table), ("path", .string path)]
  execute database (Sql.Statement.copyTable table order path)

/-- Dumps a table. A dump that fails is noted and otherwise ignored: the comparison that follows
finds the file missing or stale. -/
def dumpTable (file table database : String) : Op σ Unit := do
  match ← attempt (copyTable file table database) with
  | .ok _ => pure ()
  | .error f =>
    log .warn .dumps ("cannot dump table data: " ++ f.message)
      [("dbname", .string database), ("table", .string table), ("filename", .string file)]

/-- Dumps a table as its backup. -/
def backupTable (table database : String) : Op σ Unit :=
  dumpTable (Text.trim table ++ backupEnding) table database

/-- Dumps all user tables of a database as their backups. -/
def backupDatabase (database : String) : Op σ Unit := do
  let tables ← tableNames database
  log .info .dumps "backing up table data"
    [("dbname", .string database), ("tables", .integer tables.length)]
  tables.forM fun t => backupTable t.qualified database

/-- Dumps a table again and compares it with its backup. -/
def validateTable (table database : String) : Op σ Unit := do
  let table := Text.trim table
  dumpTable (table ++ restoreEnding) table database
  let backup ← dataFile (table ++ backupEnding)
  let restore ← dataFile (table ++ restoreEnding)
  compareFiles backup restore

/-- Checks the number of user tables, then compares each with its backup. -/
def validateDatabase (database : String) (expected : Nat) : Op σ Unit := do
  let tables ← tableNames database
  if tables.length != expected then
    throw (.detailed .assertionFailed "Unexpected number of tables"
      ("db " ++ database ++ " does not have expected number of tables " ++ expected.repr ++ " != "
        ++ tables.length.repr))
  tables.forM fun t => validateTable t.qualified database

/-- Compares each table that has rows with its backup; answers how many there are. -/
def validateFilled (database : String) : List Sql.TableName → Op σ Nat
  | [] => return 0
  | t :: rest => do
    if (← count database (Sql.Statement.rowCount t.quoted)) == 0 then validateFilled database rest
    else
      validateTable t.qualified database
      return (← validateFilled database rest) + 1

/-- Compares each table that has rows with its backup, and then checks how many there are. -/
def validateRestoredTables (expected : Nat) (database : String) : Op σ Unit := do
  let validated ← validateFilled database (← tableNames database)
  if validated != expected then
    throw (.detailed .assertionFailed "Invalid number of tables were restored"
      ("Expected \"" ++ expected.repr ++ "\", Actual \"" ++ validated.repr ++ "\""))

/-! ## Distribution policies -/

/-- The file of the distribution policy of a database, with one of the endings. -/
def policyFile (database ending : String) : String :=
  Text.trim database ++ "_dist_policy" ++ ending

/-- Dumps the distribution policy of a database into a file of the data directory. -/
def dumpPolicy (file database : String) : Op σ Unit := do
  let path ← dataFile file
  execute database (Sql.Statement.copyDistributionPolicy path)

/-- Dumps the distribution policy of a database as its backup. -/
def backupPolicy (database : String) : Op σ Unit :=
  dumpPolicy (policyFile database backupEnding) database

/-- Dumps the distribution policy again and compares it with its backup. -/
def validatePolicy (database : String) : Op σ Unit := do
  let database := Text.trim database
  dumpPolicy (policyFile database restoreEnding) database
  let backup ← dataFile (policyFile database backupEnding)
  let restore ← dataFile (policyFile database restoreEnding)
  compareFiles backup restore

/-! ## Cleaning up -/

/-- Takes a file away at a place; directories stay. -/
def clearEntry (entry : Place × FileNode) : Op σ Unit :=
  match entry.2 with
  | .directory _ => pure ()
  | .file _ _ => changeFiles fun files _ => files.remove [] ("/" ++ Text.joinWith "/" entry.1)

/-- Takes away all files right below the data directory. -/
def clearDumps : Op σ Unit := do
  let dir := (← settings).dataDirectory
  if ← onFiles fun files here => files.isPresent here dir then
    (← onFiles fun files here => files.list here dir).forM clearEntry

end ClusterFixture.Op
