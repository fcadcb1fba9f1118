/-
Fixture operations: programs that ask a cluster, run commands, touch files and wait.

An operation knows the site that it works at, may end with a fault, and changes the world. What
answers statements and commands is left open: it is any state with functions that answer and may
change files on the way. The world keeps every call and every pause in order.

The log has the records of the operations that a task of the command line performs, which are those
of statements, of dumps and of waiting. Operations that no task performs note what they do as well:
commands that start or fail, databases that come and go, lookups that fail, segments that are
visited, files that are passed on, processes that are ended, packages that are installed. Nothing
reads those records, and they are left out.
-/

import ClusterFixture.Command
import ClusterFixture.FileTree
import ClusterFixture.Settings.Basic
import ClusterFixture.Sql.Row
import ClusterFixture.Telemetry.Record

set_option autoImplicit false

namespace ClusterFixture

/-! ## The world -/

/-- Something that an operation did to the outside. -/
inductive Call where
  | execute (target : Sql.Target) (statement : String)
  | query (target : Sql.Target) (statement : String)
  | run (command : Command)
  /-- Waited for so many milliseconds. -/
  | pause (ms : Nat)
  deriving DecidableEq, Repr

/-- The outside of an operation. -/
structure World (σ : Type) where
  /-- The state of what answers. -/
  server : σ
  files : FileTree
  /-- All calls so far, the oldest first. -/
  calls : List Call := []
  /-- All records so far, the oldest first. -/
  log : List Telemetry.Record := []

/-- What answers statements and commands. -/
structure Services (σ : Type) where
  execute : Sql.Target → String → StateM (σ × FileTree) (Checked Unit)
  query : Sql.Target → String → StateM (σ × FileTree) (Checked (List Sql.Row))
  run : Command → StateM (σ × FileTree) (Checked CommandOutput)
  /-- What becomes of the server while an operation waits. -/
  pause : Nat → σ → σ := fun _ server => server

/-- Where an operation works. -/
structure Site (σ : Type) where
  services : Services σ
  settings : Settings.Harness
  /-- The working directory, as a path. -/
  directory : String := "/"
  /-- The directory for passing files, as a path. -/
  temporary : String := "/tmp"
  /-- The directory of the sockets of local servers. -/
  sockets : String := "/tmp"

/-- The directory of a site as a place. -/
def Site.place {σ : Type} (s : Site σ) : Place := Path.parts s.directory

/-- A fixture operation. -/
abbrev Op (σ : Type) := ReaderT (Site σ) (ExceptT Fault (StateM (World σ)))

namespace Op

variable {σ α : Type}

/-! ## Running -/

/-- Runs an operation at a site. -/
def runAt (op : Op σ α) (site : Site σ) (w : World σ) : Checked α × World σ :=
  (op site).run w

/-- The result of an operation as a value, so that what follows goes on in any case. -/
def attempt (op : Op σ α) : Op σ (Checked α) := fun site => ExceptT.mk do
  let r ← (op site).run
  return .ok r

/-- The value of a check, or its fault. -/
def check (c : Checked α) : Op σ α :=
  match c with
  | .ok a => pure a
  | .error f => throw f

/-- The settings of the site. -/
def settings : Op σ Settings.Harness := return (← read).settings

/-! ## Calls -/

/-- Notes a call and lets the server answer it. -/
def ask (call : Call) (answer : Services σ → StateM (σ × FileTree) (Checked α)) : Op σ α :=
  fun site => ExceptT.mk fun w =>
    let (r, (server, files)) := (answer site.services).run (w.server, w.files)
    (r, { w with server := server, files := files, calls := w.calls ++ [call] })

/-- Writes a record to the log. An operation that no task performs writes none. -/
def log (level : Telemetry.Level) (source : Telemetry.Source) (message : String)
    (fields : List (String × Json) := []) : Op σ Unit :=
  modify fun w => { w with log := w.log ++ [⟨level, source, message, fields⟩] }

/-- Runs statements that answer nothing. -/
def executeAt (target : Sql.Target) (statement : String) : Op σ Unit := do
  log .debug .database "executing sql"
    [("dbname", .string target.database), ("utility", .bool target.utility),
      ("sql", .string statement)]
  ask (.execute target statement) fun s => s.execute target statement

/-- Runs a query. -/
def queryAt (target : Sql.Target) (statement : String) : Op σ (List Sql.Row) := do
  log .debug .database "querying"
    [("dbname", .string target.database), ("utility", .bool target.utility),
      ("sql", .string statement)]
  ask (.query target statement) fun s => s.query target statement

/-- Runs statements in a database of the configured server. -/
def execute (database statement : String) : Op σ Unit := executeAt { database } statement

/-- Runs a query in a database of the configured server. -/
def query (database statement : String) : Op σ (List Sql.Row) := queryAt { database } statement

/-- The first row of a query, if it has one. -/
def firstRow? (database statement : String) : Op σ (Option Sql.Row) :=
  return (← query database statement).head?

/-- A query that must answer something and did not. -/
def noAnswer (statement : String) : Fault := .detailed .emptyResult "error running query" statement

/-- The first column of the first row of a query. -/
def single (database statement : String) : Op σ String := do
  match (← firstRow? database statement).bind fun row => row.text? 0 with
  | some value => return value
  | none => throw (noAnswer statement)

/-- The integer that a query answers. -/
def count (database statement : String) : Op σ Int := do
  check ((Sql.Row.ofTexts [← single database statement]).integer 0)

/-! ## Commands -/

/-- A command on this host, with the variables that lead the utilities to the cluster. -/
def localCommand (name line : String) : Op σ Command := do
  let s ← settings
  return {
    name, line,
    bindings := [
      ("PGHOST", s.connection.host), ("PGPORT", s.connection.port.repr),
      ("PGUSER", s.connection.user), ("MASTER_DATA_DIRECTORY", s.masterDirectory)]
      ++ (if s.home.isEmpty then [] else [("GPHOME", s.home)]) }

/-- Runs a command; only one that cannot be started is a fault. -/
def start (c : Command) : Op σ CommandOutput := ask (.run c) fun s => s.run c

/-- Runs a command and judges how it ended. -/
def outcome (c : Command) : Op σ CommandOutcome := return .of c (← start c)

/-- Runs a command that must end well. -/
def run (c : Command) : Op σ CommandOutput := do
  check ((← start c).checked c)

/-- Runs a line on this host and judges how it ended. -/
def runLine (line : String) : Op σ CommandOutcome := do
  outcome (← localCommand ("run " ++ line) line)

/-- Runs a line on this host, however it ends. -/
def runLoosely (line : String) : Op σ CommandOutput := return (← runLine line).output

/-- Runs a utility of the cluster and judges how it ended. -/
def runUtility (line : String) : Op σ CommandOutcome := do
  let s ← settings
  let path := if s.home.isEmpty then line else s.utility line
  outcome (← localCommand ("run " ++ line) path)

/-! ## Files and time -/

/-- Reads from the files. -/
def onFiles (f : FileTree → Place → Except FileFault α) : Op σ α := do
  match f (← get).files (← read).place with
  | .ok a => return a
  | .error e => throw (.io e.message)

/-- Changes the files. -/
def changeFiles (f : FileTree → Place → Except FileFault FileTree) : Op σ Unit := do
  let files ← onFiles f
  modify fun w => { w with files }

/-- Waits. -/
def pause (ms : Nat) : Op σ Unit := do
  let site ← read
  modify fun w =>
    { w with server := site.services.pause ms w.server, calls := w.calls ++ [.pause ms] }

end Op

end ClusterFixture
