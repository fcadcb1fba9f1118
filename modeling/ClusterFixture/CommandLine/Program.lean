/-
Running command lines.

The settings come from the directory of settings and from variables. While a task runs, its name is
the scenario of the log. A task that fails is the last thing in the log, and what it failed with is
said on the error output.
-/

import ClusterFixture.CommandLine.Help
import ClusterFixture.Operation.Dumps
import ClusterFixture.Operation.Segments
import ClusterFixture.Operation.Waiting
import ClusterFixture.Session.Network
import ClusterFixture.Settings.Loading
import ClusterFixture.Telemetry.Filter

set_option autoImplicit false

namespace ClusterFixture.CommandLine

open ClusterFixture.Cluster (Endpoint Segment)
open ClusterFixture.Number (decimal)
open ClusterFixture.Session (Network)

variable {σ : Type}

/-! ## Tasks -/

/-- Notes the settings in the log. -/
def logSettings : Op σ Unit := do
  let s ← Op.settings
  let c := s.connection
  Op.log .debug .session "harness config"
    [("master_data_directory", .string s.masterDirectory), ("gphome", .string s.home),
      ("data_dir", .string s.dataDirectory), ("gppkg", .bool s.package.isSome),
      ("transfer_source", .bool s.transferSource.isSome)]
  Op.log .debug .session "master connection config"
    [("host", .string c.host), ("port", .integer c.port), ("dbname", .string c.database),
      ("username", .string c.user), ("tls_enabled", .bool c.tls.enabled)]
  let policies := [("transition_poll", s.transitionPoll), ("database_retry", s.databaseRetry)]
  for (name, policy) in policies do
    Op.log .debug .session "poll config"
      [("policy", .string name), ("interval_ms", .integer policy.interval),
        ("max_attempts", .integer policy.attempts)]

/-- The endpoint of a choice; what is not chosen is that of the master. -/
def EndpointChoice.endpoint (e : EndpointChoice) (master : Endpoint) : Endpoint :=
  ⟨e.host?.getD master.host, e.port?.getD master.port, e.user?.getD master.user⟩

/-- The line that heads the segments. -/
def segmentHeading : String :=
  "dbid\tcontent\trole\tpreferred\tmode\tstatus\tport\thostname\taddress"

/-- The line of a segment. -/
def segmentLine (s : Segment) : String :=
  Text.joinWith "\t" [decimal s.dbid, decimal s.content, s.role.name, s.preferredRole.name,
    s.mode.name, s.status.name, s.port.repr, s.hostname, s.address]

/-- Performs a task and answers the lines to print. -/
def Task.perform (t : Task) : Op σ (List String) := do
  let master := (← Op.settings).connection.endpoint
  match t with
  | .waitInSync e =>
    Op.waitForSync (e.endpoint master)
    return []
  | .waitResync e =>
    Op.waitForResync (e.endpoint master)
    return []
  | .waitChangeTracking e =>
    let tracking ← Op.waitForChangeTracking (e.endpoint master)
    Op.log .info .session "segments in change tracking" [("segments", .integer tracking)]
    return []
  | .backup database =>
    Op.backupDatabase database
    Op.backupPolicy database
    return []
  | .validate database tables =>
    Op.validateDatabase database tables
    Op.validatePolicy database
    return []
  | .segments => return segmentHeading :: (← Op.layout).segments.map segmentLine

/-- Performs a task, with notes in the log around it. -/
def Task.run (t : Task) : Op σ (List String) := do
  Op.log .info .session "starting fixture command"
  logSettings
  match ← Op.attempt t.perform with
  | .ok lines =>
    Op.log .info .session "fixture command completed"
    return lines
  | .error f =>
    Op.log .error .program ("fixture command failed: " ++ f.message)
    throw f

/-! ## Programs -/

/-- What a program is started with. -/
structure Start where
  arguments : List String
  bindings : List (String × String) := []
  files : FileTree := {}
  /-- The working directory, as a path. -/
  directory : String := "/"
  network : Network := {}

/-- What a program leaves. -/
structure Exit where
  status : Nat
  stdout : String := ""
  stderr : String := ""
  log : Telemetry.Log := {}
  files : FileTree := {}
  network : Network := {}

/-- The variable with the filter of the log. -/
def filterVariable : String := "RUST_LOG"

/-- What is said of a command line without sense. -/
def UsageFault.message : UsageFault → String
  | .noCommand => overview
  | .unknownCommand name => "error: unrecognized subcommand '" ++ name ++ "'\n"
  | .unexpected argument => "error: unexpected argument '" ++ argument ++ "' found\n"
  | .repeated option =>
    "error: the argument '--" ++ option ++ "' cannot be used multiple times\n"
  | .noValue option => "error: a value is required for '--" ++ option ++ "'\n"
  | .badValue option value =>
    "error: invalid value '" ++ value ++ "' for '--" ++ option ++ "'\n"
  | .missing option => "error: the required argument '--" ++ option ++ "' was not provided\n"

namespace Start

/-- The settings of a program, or what is wrong with them. -/
def settings (s : Start) : Except String Settings.Harness := do
  let sources : Settings.Sources := ⟨s.files, s.directory, s.bindings⟩
  let loaded ← sources.loadHarness.mapError Settings.LoadFault.message
  let (settings, overlaid) := loaded.overlay fun name => s.bindings.lookup name
  overlaid.mapError Settings.SettingsFault.message
  settings.validate.mapError Settings.SettingsFault.message
  return settings

/-- The log of a task: in an environment whose log goes to files, the records that the filter
keeps. -/
def log (s : Start) (task : Task) (records : List Telemetry.Record) : Telemetry.Log :=
  let named := s.bindings.lookup Settings.Environment.variableName
  match Settings.Environment.ofVariable named with
  | .ok e =>
    if e.isProd then
      let filter := Telemetry.Filter.ofVariable (s.bindings.lookup filterVariable)
      ((Telemetry.Log.begin {} task.verb.name).keep filter records)
    else {}
  | .error _ => {}

/-- The exit of a program that could not do its task. -/
def fail (s : Start) (message : String) : Exit :=
  { status := 1, stderr := "Error: " ++ message ++ "\n", files := s.files, network := s.network }

/-- Performs a task. -/
def perform (s : Start) (task : Task) : Exit :=
  match s.settings with
  | .error message => s.fail message
  | .ok settings =>
    let shell : Shell.Setting := { bindings := s.bindings, directory := s.directory }
    let site : Site Network := {
      services := Network.services settings.connection shell
      settings
      directory := s.directory }
    let (r, w) := task.run.runAt site { server := s.network, files := s.files }
    let log := s.log task w.log
    match r with
    | .ok lines =>
      { status := 0, stdout := String.join (lines.map fun line => line ++ "\n"), log,
        files := w.files, network := w.server }
    | .error f => { s.fail f.message with log, files := w.files, network := w.server }

/-- Runs a program. -/
def run (s : Start) : Exit :=
  match Request.ofArguments s.arguments with
  | .error f => { status := 2, stderr := f.message, files := s.files, network := s.network }
  | .ok (.help topic) =>
    { status := 0, stdout := topic.text, files := s.files, network := s.network }
  | .ok .version =>
    { status := 0, stdout := version, files := s.files, network := s.network }
  | .ok (.perform task) => s.perform task

end Start

end ClusterFixture.CommandLine
