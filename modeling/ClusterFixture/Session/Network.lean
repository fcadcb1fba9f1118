/-
A network of servers, for trying sessions out.

A server listens in a directory and answers statements by rules: the first whose pattern occurs in a
statement gives the rows, and perhaps a refusal behind them. Every call of an operation opens a
session of its own, and the network keeps what each session said.
-/

import ClusterFixture.Operation.Basic
import ClusterFixture.Session.Fault
import ClusterFixture.Shell.Run

set_option autoImplicit false

namespace ClusterFixture.Session

open ClusterFixture.Settings (Connection SessionOptions Listener)

/-! ## Servers -/

/-- What a server answers to the statements that contain a pattern. -/
structure Reply where
  pattern : String
  /-- The rows of each statement. -/
  sets : List (List Sql.Row) := []
  /-- The code of a refusal that follows the rows. -/
  refusal? : Option String := none
  deriving Repr

/-- A server. -/
structure Server where
  /-- The directory of its socket. -/
  directory : String
  port : Nat
  replies : List Reply := []
  wantsPassword : Bool := false
  /-- The code of a refusal that every session begins with. -/
  refusal? : Option String := none
  deriving Repr

/-- The rows that a statement gives, or why it fails. -/
def Server.answer (s : Server) (statement : String) : Except SessionFault (List Sql.Row) :=
  match s.replies.find? fun r => Text.contains statement r.pattern with
  | none => .ok []
  | some r =>
    match r.refusal? with
    | some code => .error (.refused code)
    | none => .ok r.sets.flatten

/-! ## Sessions -/

/-- What a server saw of a session. -/
inductive Visit where
  /-- Protection was asked for, and the session ended. -/
  | protection (directory : String) (port : Nat)
  | session (directory : String) (port : Nat) (parameters : List (String × String))
      (password? : Option String) (statements : List String)
  deriving DecidableEq, Repr

/-- Servers, and what they saw, the earliest first. -/
structure Network where
  servers : List Server := []
  visits : List Visit := []
  deriving Repr

/-- The options of sessions that go to single segments. -/
def utilityOptions : String := "-c gp_session_role=utility"

/-- What a session is opened with, for statements at a target. -/
def targetOptions (c : Connection) (t : Sql.Target) : SessionOptions :=
  let c := { c with
    host := t.host.getD c.host, port := t.port.getD c.port, user := t.user.getD c.user }
  c.options (some t.database)

/-- The parameters that a session begins with. -/
def parameters (o : SessionOptions) (utility : Bool) : List (String × String) :=
  [("client_encoding", "UTF8"), ("user", o.user)]
    ++ (o.database.toList.map fun name => ("database", name))
    ++ (if utility then [("options", utilityOptions)] else [])

/-- Whether a text cannot be sent to a server. -/
def isUnsendable (text : String) : Bool := text.contains '\x00'

namespace Network

/-- The server that listens at a place; no other can be reached. -/
def server? (n : Network) (o : SessionOptions) : Option Server :=
  match o.listener with
  | .tcp _ => none
  | .socket directory => n.servers.find? fun s =>
    Path.parts s.directory == Path.parts directory && s.port == o.port

/-- The network after one more visit. -/
def visited (n : Network) (v : Visit) : Network := { n with visits := n.visits ++ [v] }

/-- Opens a session and runs a statement in it. -/
def run (c : Connection) (t : Sql.Target) (statement : String) (n : Network) :
    Except SessionFault (List Sql.Row) × Network :=
  let o := targetOptions c t
  match n.server? o with
  | none => (.error .unreachable, n)
  | some s =>
    if o.tlsRequired then (.error .unprotected, n.visited (.protection s.directory s.port))
    else
      let visit (password? : Option String) (statements : List String) : Network :=
        n.visited (.session s.directory s.port (parameters o t.utility) password? statements)
      if (parameters o t.utility).any fun entry => isUnsendable entry.2 then
        (.error .unsendable, n)
      else match s.refusal?, s.wantsPassword, o.password with
      | some code, _, _ => (.error (.refused code), visit none [])
      | none, true, none => (.error .noPassword, visit none [])
      | none, wanted, password? =>
        let password? := if wanted then password? else none
        if password?.any isUnsendable then (.error .unsendable, visit none [])
        else if isUnsendable statement then (.error .unsendable, visit password? [])
        else (s.answer statement, visit password? [statement])

/-- What an operation gets for statements: the rows of all of them. -/
def rows (c : Connection) (t : Sql.Target) (statement : String) :
    StateM (Network × FileTree) (Checked (List Sql.Row)) := fun (n, files) =>
  let (r, n) := run c t statement n
  (r.mapError SessionFault.toFault, (n, files))

/-- The services of a network, with a shell for commands. -/
def services (c : Connection) (shell : Shell.Setting) : Services Network where
  execute t statement := do
    match ← rows c t statement with
    | .ok _ => return .ok ()
    | .error f => return .error f
  query := rows c
  run command := return shell.runCommand Shell.showArguments command

end Network

end ClusterFixture.Session
