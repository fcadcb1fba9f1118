/-
The settings of a harness: the server, the directories, the polling policies and what belongs to
extensions and transfers.

The variables that a session of the cluster conventionally exports are laid over the settings one
after the other, and the first that is no port ends the overlay.
-/

import ClusterFixture.Path
import ClusterFixture.Poll
import ClusterFixture.Sql.Target
import ClusterFixture.Cluster.Transition

set_option autoImplicit false

namespace ClusterFixture.Settings

/-! ## Parts -/

/-- How the connection is protected. -/
structure Tls where
  /-- The certificates to trust. -/
  trustedRoots : String := ""
  /-- Whether protection is required. -/
  enabled : Bool := false
  deriving DecidableEq, Repr, Inhabited

/-- How to reach the master. -/
structure Connection where
  host : String
  port : Nat
  /-- The database to use where an operation names none. -/
  database : String
  user : String
  password : Option String
  tls : Tls
  deriving DecidableEq, Repr, Inhabited

/-- An extension package. -/
structure Package where
  directory : String
  /-- The name of the package without its ending. -/
  name : String
  deriving DecidableEq, Repr, Inhabited

/-- The cluster that a transfer reads from. -/
structure TransferSource where
  host : String
  port : Nat
  user : String
  deriving DecidableEq, Repr, Inhabited

/-- The settings of a harness. -/
structure Harness where
  connection : Connection
  /-- The data directory of the master. -/
  masterDirectory : String
  /-- Where the utilities of the cluster are installed. -/
  home : String
  /-- Where the dumps of tables go. -/
  dataDirectory : String
  /-- The policy for changes of mirrors. -/
  transitionPoll : PollPolicy
  /-- The policy for creating and removing databases. -/
  databaseRetry : PollPolicy
  package : Option Package
  transferSource : Option TransferSource
  /-- Where the sample data of an extension is. -/
  sampleDirectory : String
  deriving DecidableEq, Repr, Inhabited

/-- The data directory where nothing else is set. -/
def defaultDataDirectory : String := "./gppylib/test/data"

/-- The settings of a cluster of which only the connection and the data directory are known. -/
def Harness.new (connection : Connection) (masterDirectory : String) : Harness :=
  ⟨connection, masterDirectory, "", defaultDataDirectory, .transition, .databaseRetry, none, none,
    ""⟩

/-! ## Validity -/

/-- What makes settings unusable. -/
inductive SettingsFault where
  | noMasterDirectory
  | noAttempts (policy : String)
  | noTrustedRoots
  | badVariable (name value : String)
  deriving DecidableEq, Repr

namespace SettingsFault

/-- The name of a fault, as reports show it. -/
def name : SettingsFault → String
  | .noMasterDirectory => "MissingMasterDataDirectory"
  | .noAttempts _ => "ZeroPollAttempts"
  | .noTrustedRoots => "MissingTrustedRootCerts"
  | .badVariable _ _ => "InvalidEnvValue"

/-- What is said of it. -/
def message : SettingsFault → String
  | .noMasterDirectory => "`master_data_directory` must be set (MASTER_DATA_DIRECTORY is not set)"
  | .noAttempts policy => "`" ++ policy ++ ".max_attempts` cannot be zero"
  | .noTrustedRoots =>
    "Invalid TLS config: `trusted_root_certs` must be set when `enabled` is true"
  | .badVariable name value =>
    "environment variable `" ++ name ++ "` has an invalid value `" ++ value ++ "`"

/-- The fault as one of fixture operations. -/
def toFault (f : SettingsFault) : Fault :=
  .detailed .configError "Configuration is invalid" f.message

end SettingsFault

/-- Whether settings can be used; the first part that cannot decides the fault. -/
def Harness.validate (s : Harness) : Except SettingsFault Unit :=
  if s.connection.tls.enabled && s.connection.tls.trustedRoots.isEmpty then .error .noTrustedRoots
  else if s.masterDirectory.isEmpty then .error .noMasterDirectory
  else if s.transitionPoll.attempts = 0 then .error (.noAttempts "transition_poll")
  else if s.databaseRetry.attempts = 0 then .error (.noAttempts "database_retry")
  else .ok ()

/-! ## Variables of a session -/

/-- The port that a variable names, blanks around it aside. -/
def readPort (name value : String) : Except SettingsFault Nat :=
  match Number.readInteger (Number.unsignedRange 16) (Text.trim value) with
  | .ok n => .ok n.toNat
  | .error _ => .error (.badVariable name value)

/-- The settings with the variables over them, as far as they could be laid, and the fault that
ended it. Package and transfer source change only when all of their variables are set. -/
def Harness.overlay (s : Harness) (lookup : String → Option String) :
    Harness × Except SettingsFault Unit :=
  let s := match lookup "MASTER_DATA_DIRECTORY" with
    | some dir => { s with masterDirectory := dir }
    | none => s
  let s := match lookup "PGHOST" with
    | some host => { s with connection := { s.connection with host := host } }
    | none => s
  let port := match lookup "PGPORT" with
    | some value => (readPort "PGPORT" value).map some
    | none => .ok none
  match port with
  | .error f => (s, .error f)
  | .ok port =>
    let s := match port with
      | some n => { s with connection := { s.connection with port := n } }
      | none => s
    let s := match lookup "USER" with
      | some user => { s with connection := { s.connection with user := user } }
      | none => s
    let s := match lookup "PGDATABASE" with
      | some name => { s with connection := { s.connection with database := name } }
      | none => s
    let s := match lookup "GPHOME" with
      | some home => { s with home := home }
      | none => s
    let s := match lookup "GPPKG_PATH", lookup "GPPKG_NAME" with
      | some directory, some name => { s with package := some ⟨directory, name⟩ }
      | _, _ => s
    match lookup "GPTRANSFER_SOURCE_HOST", lookup "GPTRANSFER_SOURCE_PORT",
        lookup "GPTRANSFER_SOURCE_USER" with
    | some host, some value, some user =>
      match readPort "GPTRANSFER_SOURCE_PORT" value with
      | .error f => (s, .error f)
      | .ok n => ({ s with transferSource := some ⟨host, n, user⟩ }, .ok ())
    | _, _, _ => (s, .ok ())

/-! ## Derived values -/

/-- The path of a utility of the cluster. -/
def Harness.utility (s : Harness) (command : String) : String :=
  Path.join (Path.join s.home "bin") command

/-- The endpoint that transitions are watched from by default. -/
def Connection.endpoint (c : Connection) : Cluster.Endpoint := ⟨c.host, c.port, c.user⟩

/-- A place where a server listens. -/
inductive Listener where
  | tcp (host : String)
  | socket (directory : String)
  deriving DecidableEq, Repr

/-- The place that a host names: a path is the directory of a socket. -/
def Listener.of (host : String) : Listener :=
  if Path.isAbsolute host then .socket host else .tcp host

/-- What a session is opened with. -/
structure SessionOptions where
  listener : Listener
  port : Nat
  user : String
  database : Option String
  password : Option String
  tlsRequired : Bool
  deriving DecidableEq, Repr

/-- The options for the server, with a database or without one. -/
def Connection.options (c : Connection) (database : Option String) : SessionOptions :=
  ⟨.of c.host, c.port, c.user, database, c.password, c.tls.enabled⟩

end ClusterFixture.Settings
