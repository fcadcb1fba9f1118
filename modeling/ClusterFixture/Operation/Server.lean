/-
Starting and stopping the database. Neither is noted in the log.
-/

import ClusterFixture.Operation.Basic

set_option autoImplicit false

namespace ClusterFixture.Op

variable {σ : Type}

/-- Whether all paths lead to something. -/
def allPresent : List String → Op σ Bool
  | [] => return true
  | path :: rest => do
    if ← onFiles fun files here => files.isPresent here path then allPresent rest
    else return false

/-- The process number on the first line of a text. -/
def firstPid? (text : String) : Option Nat :=
  match (Text.lines text).head? with
  | none => none
  | some line =>
    match Number.readInteger (Number.unsignedRange 32) (Text.trim line) with
    | .ok n => some n.toNat
    | .error _ => none

/-- Whether the master is up: the file with its process number and the files of its socket are
there, and the process is alive. -/
def databaseRunning : Op σ Bool := do
  let s ← settings
  let socket := Path.join (← read).sockets (".s.PGSQL." ++ s.connection.port.repr)
  let pidFile := Path.join s.masterDirectory "postmaster.pid"
  if !(← allPresent [pidFile, socket ++ ".lock", socket]) then return false
  else
    match firstPid? (← onFiles fun files here => files.readText here pidFile) with
    | none => return false
    | some pid =>
      let c ← localCommand "check postmaster" ("kill -0 " ++ pid.repr)
      return (← outcome c).failure.isNone

/-- Runs a utility that must end well, and answers its outcome. -/
def runUtilityChecked (line : String) : Op σ CommandOutcome := do
  let o ← runUtility line
  match o.failure with
  | some f => throw f
  | none => return o

/-- Starts the database. -/
def startDatabase : Op σ CommandOutcome := runUtilityChecked "gpstart -a"

/-- Stops the database. -/
def stopDatabase : Op σ CommandOutcome := runUtilityChecked "gpstop -M fast -a"

/-- Starts the database unless it runs. -/
def startDatabaseIfStopped : Op σ (Option CommandOutcome) := do
  if ← databaseRunning then return none else return some (← startDatabase)

/-- Stops the database if it runs. -/
def stopDatabaseIfRunning : Op σ (Option CommandOutcome) := do
  if ← databaseRunning then return some (← stopDatabase) else return none

/-- Runs a line on another host, after reading a file of setup and exporting one more. -/
def runOnHost (line host setup export_ : String) : Op σ CommandOutcome := do
  let c ← localCommand ("run command " ++ line)
    ("gpssh -h " ++ host ++ " -e 'source " ++ setup ++ "; " ++ export_ ++ "; " ++ line ++ "'")
  return ⟨← run c, none⟩

end ClusterFixture.Op
