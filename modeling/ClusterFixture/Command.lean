/-
Commands: a line for a shell, here or on another host, and what came of it.
-/

import ClusterFixture.Fault
import ClusterFixture.Number.Integer
import ClusterFixture.Text.Blank

set_option autoImplicit false

namespace ClusterFixture

/-- A command for a shell. -/
structure Command where
  /-- A few words about it, for the log. -/
  name : String
  /-- The line that the shell gets. -/
  line : String
  /-- The other host to run it on. -/
  host : Option String := none
  /-- The variables that a command on this host gets on top of the present ones. -/
  bindings : List (String × String) := []
  deriving DecidableEq, Repr, Inhabited

/-- What a finished command left. -/
structure CommandOutput where
  status : Int
  stdout : String
  stderr : String
  deriving DecidableEq, Repr, Inhabited

namespace CommandOutput

/-- The output of a command that succeeds in silence. -/
def silent : CommandOutput := ⟨0, "", ""⟩

/-- Whether the command ended well. -/
def succeeded (o : CommandOutput) : Bool := o.status == 0

/-- The fault of a command that did not end well. -/
def failure (c : Command) (o : CommandOutput) : Fault :=
  .detailed .commandFailed "Command exited with a non-zero status"
    (c.name ++ ": '" ++ c.line ++ "' rc=" ++ Number.decimal o.status ++ " stderr="
      ++ Text.trim o.stderr)

/-- The output, where the command ended well. -/
def checked (c : Command) (o : CommandOutput) : Checked CommandOutput :=
  if o.succeeded then .ok o else .error (o.failure c)

end CommandOutput

/-- What a finished command left, with the fault where it did not end well. -/
structure CommandOutcome where
  output : CommandOutput
  failure : Option Fault
  deriving Repr, Inhabited

/-- The outcome of a command, judged by its status. -/
def CommandOutcome.of (c : Command) (o : CommandOutput) : CommandOutcome :=
  ⟨o, if o.succeeded then none else some (o.failure c)⟩

end ClusterFixture
