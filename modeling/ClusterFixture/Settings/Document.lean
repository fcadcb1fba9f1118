/-
Reading settings out of documents.

What settings consist of is said here once: which members a record has, which of them may be missing
and what stands for those. How a member is taken for a text, a number or a flag, and how trouble is
worded, is left to the form of the document.

The members of a record are read in the order of the document, and the first that cannot be read
decides the fault. Only then does a missing member count, in the order of the record. Members that
the record does not know are passed over. A record may also be given by position; then the members
are read in the order of the record, and one without a value of its own must be there.
-/

import ClusterFixture.Settings.Basic

set_option autoImplicit false

namespace ClusterFixture.Settings

/-! ## Forms of documents -/

/-- A record of a document: members under their names, or values by position. -/
inductive Parts (V : Type) where
  | members (entries : List (String × V))
  | items (values : List V)

/-- How a form of documents holds settings. -/
structure Form (V ε : Type) where
  /-- The parts of the record of the given title. -/
  record : (title : String) → V → Except ε (Parts V)
  text : V → Except ε String
  path : V → Except ε String
  flag : V → Except ε Bool
  /-- A number of so many bits, without a sign. -/
  unsigned : (bits : Nat) → V → Except ε Nat
  /-- Whether a value stands for none. -/
  isNone : V → Bool
  /-- A member is missing. -/
  missing : (name : String) → ε
  /-- A record by position ends before the member with the given place. -/
  tooShort : (place : Nat) → (title : String) → (members : Nat) → ε
  /-- What is said of values by position beyond the last member, if anything. -/
  tooLong? : (given : Nat) → Option ε

namespace Form

variable {V ε α : Type}

/-! ## Records -/

/-- The value of a member of a record, if it is there. -/
def value? (names : List String) (name : String) : Parts V → Option V
  | .members entries => (entries.find? fun entry => entry.1 == name).map (·.2)
  | .items values => values[names.idxOf name]?

/-- A record while it is read. -/
structure Reading (V ε : Type) where
  form : Form V ε
  title : String
  names : List String
  parts : Parts V

namespace Reading

/-- The fault of a member that must be there and is not. -/
def missing (r : Reading V ε) (name : String) : ε :=
  match r.parts with
  | .members _ => r.form.missing name
  | .items _ => r.form.tooShort (r.names.idxOf name) r.title r.names.length

/-- A member that must be there. -/
def required (r : Reading V ε) (name : String) (read : V → Except ε α) : Except ε α :=
  match value? r.names name r.parts with
  | some v => read v
  | none => .error (r.missing name)

/-- A member with a value for the case that it is missing. -/
def withDefault (r : Reading V ε) (name : String) (otherwise : α) (read : V → Except ε α) :
    Except ε α :=
  match value? r.names name r.parts with
  | some v => read v
  | none => .ok otherwise

end Reading

/-- A member of a record, and whether its value can be read. -/
structure Member (V ε : Type) where
  name : String
  check : V → Except ε Unit

/-- The member of the given name. -/
def member (name : String) (read : V → Except ε α) : Member V ε := ⟨name, fun v => do
  let _ ← read v
  return⟩

/-- Whether all members can be read, in the order of the document. -/
def checkMembers (members : List (Member V ε)) : List (String × V) → Except ε Unit
  | [] => .ok ()
  | (name, v) :: rest => do
    match members.find? fun m => m.name == name with
    | some m => m.check v
    | none => pure ()
    checkMembers members rest

/-- Reads a record. -/
def readRecord (f : Form V ε) (title : String) (members : List (Member V ε))
    (build : Reading V ε → Except ε α) (v : V) : Except ε α := do
  let parts ← f.record title v
  let reading : Reading V ε := ⟨f, title, members.map Member.name, parts⟩
  match parts with
  | .members entries =>
    checkMembers members entries
    build reading
  | .items values =>
    let a ← build reading
    if members.length < values.length then
      match f.tooLong? values.length with
      | some fault => throw fault
      | none => return a
    else return a

/-! ## The records of settings -/

variable (f : Form V ε)

/-- Reads how a connection is protected. -/
def tls : V → Except ε Tls :=
  f.readRecord "TlsConfig"
    [member "trusted_root_certs" f.text, member "enabled" f.flag]
    fun r => do
      let trustedRoots ← r.required "trusted_root_certs" f.text
      let enabled ← r.required "enabled" f.flag
      return ⟨trustedRoots, enabled⟩

/-- Reads a value that may be none. -/
def orNone (read : V → Except ε α) (v : V) : Except ε (Option α) :=
  if f.isNone v then .ok none else (read v).map some

/-- Reads how to reach the master. -/
def connection : V → Except ε Connection :=
  f.readRecord "PgConnectionConfig"
    [member "host" f.text, member "port" (f.unsigned 16), member "name" f.text,
      member "username" f.text, member "password" (f.orNone f.text), member "tls" f.tls]
    fun r => do
      let host ← r.required "host" f.text
      let port ← r.required "port" (f.unsigned 16)
      let database ← r.withDefault "name" Sql.templateDatabase f.text
      let user ← r.required "username" f.text
      let password ← r.withDefault "password" none (f.orNone f.text)
      let tls ← r.withDefault "tls" {} f.tls
      return ⟨host, port, database, user, password, tls⟩

/-- Reads a polling policy. -/
def policy : V → Except ε PollPolicy :=
  f.readRecord "PollConfig"
    [member "interval_ms" (f.unsigned 64), member "max_attempts" (f.unsigned 32)]
    fun r => do
      let interval ← r.required "interval_ms" (f.unsigned 64)
      let attempts ← r.required "max_attempts" (f.unsigned 32)
      return ⟨interval, attempts⟩

/-- Reads an extension package. -/
def package : V → Except ε Package :=
  f.readRecord "GppkgConfig" [member "path" f.path, member "name" f.text]
    fun r => do
      let directory ← r.required "path" f.path
      let name ← r.required "name" f.text
      return ⟨directory, name⟩

/-- Reads the cluster that a transfer reads from. -/
def transferSource : V → Except ε TransferSource :=
  f.readRecord "TransferSourceConfig"
    [member "host" f.text, member "port" (f.unsigned 16), member "user" f.text]
    fun r => do
      let host ← r.required "host" f.text
      let port ← r.required "port" (f.unsigned 16)
      let user ← r.required "user" f.text
      return ⟨host, port, user⟩

/-- Reads the settings of a harness. -/
def harness : V → Except ε Harness :=
  f.readRecord "HarnessConfig"
    [member "connection" f.connection, member "master_data_directory" f.path,
      member "gphome" f.path, member "data_dir" f.path, member "transition_poll" f.policy,
      member "database_retry" f.policy, member "gppkg" (f.orNone f.package),
      member "transfer_source" (f.orNone f.transferSource), member "postgis_data_dir" f.path]
    fun r => do
      let connection ← r.required "connection" f.connection
      let masterDirectory ← r.withDefault "master_data_directory" "" f.path
      let home ← r.withDefault "gphome" "" f.path
      let dataDirectory ← r.withDefault "data_dir" defaultDataDirectory f.path
      let transitionPoll ← r.withDefault "transition_poll" .transition f.policy
      let databaseRetry ← r.withDefault "database_retry" .databaseRetry f.policy
      let package ← r.withDefault "gppkg" none (f.orNone f.package)
      let transferSource ← r.withDefault "transfer_source" none (f.orNone f.transferSource)
      let sampleDirectory ← r.withDefault "postgis_data_dir" "" f.path
      return ⟨connection, masterDirectory, home, dataDirectory, transitionPoll, databaseRetry,
        package, transferSource, sampleDirectory⟩

end Form

end ClusterFixture.Settings
