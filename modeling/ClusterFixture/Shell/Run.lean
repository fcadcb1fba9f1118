/-
Running lines of a shell, and commands on this host and on others.

The outputs of all commands are kept in their order, except where a command sends its own elsewhere.
In a chain, every output but the last is the input of the next command; such a command runs in a
shell of its own, which it may end without ending the chain.
-/

import ClusterFixture.Command
import ClusterFixture.Shell.Builtin
import ClusterFixture.Shell.Line
import ClusterFixture.Text.Search

set_option autoImplicit false

namespace ClusterFixture.Shell

open ClusterFixture.Text (Bytes utf8)

/-! ## States -/

/-- What a shell is started with. -/
structure Setting where
  bindings : List (String × String)
  /-- The working directory. -/
  directory : String
  /-- The name that faults are headed by. -/
  name : String := "bash"
  /-- The number of the shell's process, as text. -/
  process : String := "4242"

/-- A shell between two commands. -/
structure State where
  status : Nat := 0
  stdout : Bytes := []
  stderr : Bytes := []
  /-- What the shell ended with, once it has. -/
  ended? : Option Int := none

/-! ## Words -/

/-- The value of a parameter, if it is set. -/
def Setting.parameter? (s : Setting) (last : Nat) (name : String) : Option String :=
  match name with
  | "$" => some s.process
  | "?" => some last.repr
  | "#" => some "0"
  | "0" => some s.name
  | "PWD" => some s.directory
  | "BASH_VERSION" => some "5"
  | _ => s.bindings.lookup name

/-- A parameter as it is used. -/
def Use.apply (u : Use) (value? : Option String) : String :=
  match u, value? with
  | .value, some v => v
  | .value, none => ""
  | .whenSet nonEmpty text, some v => if nonEmpty && v.isEmpty then "" else String.ofList text
  | .whenSet _ _, none => ""
  | .whenUnset orEmpty text, some v => if orEmpty && v.isEmpty then String.ofList text else v
  | .whenUnset _ text, none => String.ofList text

/-- Fields in the making: the complete ones in reverse, and the present one if it has begun. -/
structure Fields where
  complete : List String := []
  current? : Option String := none

namespace Fields

/-- More of the present field. -/
def add (f : Fields) (text : String) : Fields :=
  { f with current? := some (f.current?.getD "" ++ text) }

/-- Ends the present field. -/
def close (f : Fields) : Fields :=
  match f.current? with
  | some text => ⟨text :: f.complete, none⟩
  | none => f

/-- A text whose blanks end fields. -/
def addSplit (f : Fields) (text : List Char) : Fields :=
  text.foldl (fun f c =>
    if c = ' ' || c = '\t' || c = '\n' then f.close else f.add (String.ofList [c])) f

end Fields

/-- The fields that a word becomes. A parameter outside of quotes may become any number of them. -/
def Setting.fields (s : Setting) (last : Nat) (w : Word) : List String :=
  let f := w.foldl (fun (f : Fields) piece =>
    match piece with
    | .text cs => f.add (String.ofList cs)
    | .parameter quoted name use =>
      let value := use.apply (s.parameter? last (String.ofList name))
      if quoted then f.add value else f.addSplit value.toList) {}
  f.close.complete.reverse

/-! ## Commands -/

/-- Where the output of a descriptor goes. -/
inductive Sink where
  | stdout
  | stderr
  /-- Out of sight. -/
  | nowhere
  deriving DecidableEq, Repr

/-- The sinks of the two outputs after a redirection. -/
def redirect (sinks : Sink × Sink) (r : Nat × Outlet) : Sink × Sink :=
  let sink := match r.2 with
    | .same 1 => sinks.1
    | .same 2 => sinks.2
    | _ => .nowhere
  if r.1 = 1 then (sink, sinks.2) else if r.1 = 2 then (sinks.1, sink) else sinks

/-- What arrives at a sink. -/
def arriving (sink : Sink) (sinks : Sink × Sink) (r : Result) : Bytes :=
  (if sinks.1 = sink then r.stdout else []) ++ (if sinks.2 = sink then r.stderr else [])

/-- Runs one command. -/
def Setting.runSimple (s : Setting) (last : Nat) (c : Simple) (input : Bytes) : Result :=
  let r : Result := match c.words.flatMap (s.fields last) with
    | [] => {}
    | name :: arguments =>
      let start : Start := {
        arguments, input, last, process := s.process, directory := s.directory,
        heading := s.name ++ ": line " ++ c.line.repr ++ ": " }
      start.run name
  let sinks := c.redirections.foldl redirect (.stdout, .stderr)
  { r with stdout := arriving .stdout sinks r, stderr := arriving .stderr sinks r }

/-- Runs the commands of a chain, each with the output of the one before it. -/
def Setting.runStages (s : Setting) (last : Nat) : List Simple → Bytes → Bytes → Result
  | [], input, stderr => { stdout := input, stderr }
  | [c], input, stderr =>
    let r := s.runSimple last c input
    { r with stderr := stderr ++ r.stderr }
  | c :: rest, input, stderr =>
    let r := s.runSimple last c input
    if r.ends? = some killed then { r with stdout := [], stderr := stderr ++ r.stderr }
    else s.runStages last rest r.stdout (stderr ++ r.stderr)

/-- Runs a chain, unless the shell has ended or the last status keeps it from going ahead. -/
def Setting.runChain (s : Setting) (t : State) (c : Chain) : State :=
  let goes := match c.link with
    | .always => true
    | .ifOk => t.status == 0
    | .ifFailed => t.status != 0
  if t.ended?.isSome || !goes then t
  else
    let r := s.runStages t.status c.stages [] []
    let alone := c.stages.length ≤ 1
    let status := match r.ends? with
      | some n => n.toNat
      | none => r.status
    { status, stdout := t.stdout ++ r.stdout, stderr := t.stderr ++ r.stderr,
      ended? := if alone || r.ends? = some killed then r.ends? else none }

/-- Runs a line. -/
def Setting.run (s : Setting) (line : String) : CommandOutput :=
  let t := (chains line).foldl s.runChain {}
  ⟨t.ended?.getD t.status, Text.ofUtf8Lenient t.stdout, Text.ofUtf8Lenient t.stderr⟩

/-! ## Hosts -/

/-- The arguments that a command for another host is handed on with. -/
def remoteArguments (host line : String) : List String :=
  ["-o", "StrictHostKeyChecking=no", host, line]

/-- What is said of an argument that cannot be passed on. -/
def nulMessage : String := "nul byte found in provided data"

/-- Runs a command: a line on this host with the variables of the command on top, or else what hands
arguments on to other hosts. -/
def Setting.runCommand (s : Setting) (remote : List String → CommandOutput) (c : Command) :
    Checked CommandOutput :=
  let given := match c.host with
    | some host => remoteArguments host c.line
    | none => c.line :: c.bindings.flatMap fun (name, value) => [name, value]
  if given.any fun text => text.contains '\x00' then .error (.io nulMessage)
  else match c.host with
    | some host => .ok (remote (remoteArguments host c.line))
    | none => .ok ({ s with bindings := c.bindings.reverse ++ s.bindings }.run c.line)

/-- What stands in for other hosts: it shows the arguments, each on a line. -/
def showArguments (arguments : List String) : CommandOutput :=
  ⟨0, String.join (arguments.map fun a => "<" ++ a ++ ">\n"), ""⟩

end ClusterFixture.Shell
