/-
Creating and removing databases and schemas.

The utilities for databases race with sessions that have not ended yet, so they are run again until
the listing of the server shows what they were to do. How the attempts go is not noted in the log.
-/

import ClusterFixture.Operation.Catalog

set_option autoImplicit false

namespace ClusterFixture.Op

variable {σ : Type}

/-! ## Databases -/

/-- Runs a utility until it ends well and the listing shows its effect, `left` times at most, and
waits after each time in vain. The fault is that of the last run, unless it ended well. -/
def retryUtility (line : String) (settled : Op σ Bool) (exhausted : Fault) (interval : Nat) :
    Nat → Option Fault → Op σ Unit
  | 0, last => throw (last.getD exhausted)
  | left + 1, _ => do
    let failure := (← runUtility line).failure
    let finished ← if failure.isNone then settled else pure false
    if finished then return ()
    else
      pause interval
      retryUtility line settled exhausted interval left failure

/-- Creates a database. -/
def createDatabase (database : String) : Op σ Unit := do
  let policy := (← settings).databaseRetry
  let exhausted : Fault := .detailed .commandFailed "Database creation failed"
    ("createdb for '" ++ database ++ "' failed after " ++ policy.attempts.repr ++ " attempts")
  retryUtility ("createdb " ++ database) (databaseExists database) exhausted policy.interval
    policy.attempts none

/-- Removes a database. -/
def dropDatabase (database : String) : Op σ Unit := do
  let policy := (← settings).databaseRetry
  let exhausted : Fault := .detailed .commandFailed "Database removal failed"
    ("db exists after dropping: " ++ database)
  retryUtility ("dropdb " ++ database) (return !(← databaseExists database)) exhausted
    policy.interval policy.attempts none

/-- Creates a database unless it is there. -/
def createDatabaseIfMissing (database : String) : Op σ Unit := do
  if !(← databaseExists database) then createDatabase database

/-- Removes a database if it is there. -/
def dropDatabaseIfPresent (database : String) : Op σ Unit := do
  if ← databaseExists database then dropDatabase database

/-! ## Schemas -/

/-- Creates a schema unless it is there. -/
def createSchema (schema database : String) : Op σ Unit := do
  if !(← schemaExists schema database) then execute database (Sql.Statement.createSchema schema)

/-- Removes a schema with all that is in it, and checks that it is gone. -/
def dropSchema (schema database : String) : Op σ Unit := do
  execute database (Sql.Statement.dropSchema schema)
  if ← schemaExists schema database then
    throw (.detailed .assertionFailed "Unable to successfully drop the schema" schema)

/-- Removes a schema if it is there. -/
def dropSchemaIfPresent (schema database : String) : Op σ Unit := do
  if ← schemaExists schema database then dropSchema schema database

end ClusterFixture.Op
