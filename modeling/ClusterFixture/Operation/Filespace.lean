/-
Laying out a filespace: a list of where each segment keeps it, and the directories for it.
-/

import ClusterFixture.Operation.Hosts

set_option autoImplicit false

namespace ClusterFixture.Op

variable {σ : Type}

/-- The groups of segments that a filespace is laid out for. -/
inductive FilespaceRole where
  | master
  | standby
  | primary
  | mirror
  deriving DecidableEq, Repr

namespace FilespaceRole

/-- All groups, in the order of the list. -/
def all : List FilespaceRole := [.master, .standby, .primary, .mirror]

/-- The code of the preferred role of a group. -/
def code : FilespaceRole → Char
  | .master => 'p'
  | .standby => 'm'
  | .primary => 'p'
  | .mirror => 'm'

/-- Whether a group belongs to the master. -/
def ofMaster : FilespaceRole → Bool
  | .master => true
  | .standby => true
  | .primary => false
  | .mirror => false

/-- The directory of a group. -/
def directory : FilespaceRole → String
  | .master => "fs_master"
  | .standby => "fs_standby"
  | .primary => "fs_primary"
  | .mirror => "fs_mirror"

end FilespaceRole

/-- One location of a filespace. -/
structure FilespaceEntry where
  host : String
  dbid : String
  /-- The directory of the group that the segment belongs to. -/
  directory : String
  path : String
  deriving DecidableEq, Repr

/-- The line of an entry. -/
def FilespaceEntry.line (e : FilespaceEntry) : String :=
  e.host ++ ":" ++ e.dbid ++ ":" ++ e.path ++ "\n"

/-- The entry that a line of a listing describes, in three columns with bars between them. -/
def filespaceEntry (directory line : String) : Checked FilespaceEntry :=
  match (Text.split line '|').map Text.trim with
  | [host, dbid, location] =>
    .ok ⟨host, dbid, directory, Path.join directory ((Path.fileName? location).getD "")⟩
  | _ => .error (.detailed .invalidInput "Unexpected filespace entry" line)

/-- The entries of a listing; blank lines do not count. -/
def filespaceEntries (directory listing : String) : Checked (List FilespaceEntry) :=
  ((Text.lines listing).filter fun line => !(Text.trim line).isEmpty).mapM
    (filespaceEntry directory)

/-- The entries of a group, as a server lists them. -/
def listFilespace (host : String) (port : Nat) (user workingDirectory : String)
    (role : FilespaceRole) : Op σ (List FilespaceEntry) := do
  let line := "psql -t -h " ++ host ++ " -p " ++ port.repr ++ " -U " ++ user
    ++ " -d template1 -c \"" ++ Sql.Statement.filespaceEntries role.code role.ofMaster ++ ";\""
  let output ← runLoosely line
  if !output.succeeded then
    throw (.detailed .commandFailed "Exception from executing psql query" line)
  check (filespaceEntries (Path.join workingDirectory role.directory) output.stdout)

/-- Writes the list of a filespace, then makes the directory of each entry anew on its host. -/
def layOutFilespace (host : String) (port : Nat) (user name listFile workingDirectory : String) :
    Op σ Unit := do
  let entries := (← FilespaceRole.all.mapM (listFilespace host port user workingDirectory)).flatten
  let text := "filespace:" ++ name ++ "\n" ++ String.join (entries.map FilespaceEntry.line)
  changeFiles fun files here => files.write here listFile (Text.utf8 text)
  entries.forM fun e => do
    removeDirectory e.host e.directory
    createDirectory e.host e.directory

end ClusterFixture.Op
