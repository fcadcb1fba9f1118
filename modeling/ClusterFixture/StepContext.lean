/-
What the steps of a scenario pass on: the outcome of the last command, and the fault of a lookup
that counted as finding nothing.

The checks look at the last outcome. Before any command there is no status, and both outputs are
empty. What a pattern is and where it matches is not for the checks to say: they take a reader of
patterns, and what is proved of them holds for every reader. Where none is named they take
`Pattern.reader`.
-/

import ClusterFixture.Operation.Catalog
import ClusterFixture.Pattern.Read

set_option autoImplicit false

namespace ClusterFixture

/-- A reader of patterns: what a pattern asks of a text, or why it is no pattern. -/
abbrev PatternReader := String → Except String (String → Bool)

/-- The reader of the patterns of `Pattern.ofText`. -/
def Pattern.reader : PatternReader := fun pattern =>
  match ofText pattern with
  | .ok e => .ok e.matches
  | .error f => .error f.message

/-- What the steps of a scenario pass on. -/
structure StepContext where
  last : Option CommandOutcome := none
  lookupFault : Option Fault := none
  deriving Repr, Inhabited

namespace StepContext

/-! ## The last outcome -/

/-- The outcome of one more command. -/
def record (c : StepContext) (outcome : CommandOutcome) : StepContext :=
  { c with last := some outcome }

/-- The fault of one more lookup. -/
def recordLookup (c : StepContext) (fault : Fault) : StepContext :=
  { c with lookupFault := some fault }

/-- The status of the last command. -/
def status? (c : StepContext) : Option Int := c.last.map fun o => o.output.status

/-- What the last command wrote. -/
def stdout (c : StepContext) : String := (c.last.map fun o => o.output.stdout).getD ""

/-- What the last command wrote about errors. -/
def stderr (c : StepContext) : String := (c.last.map fun o => o.output.stderr).getD ""

/-- Whether the last outcome has a fault. -/
def hasFailure (c : StepContext) : Bool := c.last.any fun o => o.failure.isSome

/-- The fault of the last outcome, which has none from then on. -/
def takeFailure (c : StepContext) : Option Fault × StepContext :=
  (c.last.bind CommandOutcome.failure,
    { c with last := c.last.map fun o => { o with failure := none } })

/-! ## Checks -/

/-- Whether a pattern matches a text. -/
def found (reader : PatternReader) (pattern text : String) : Checked Bool :=
  match reader pattern with
  | .ok holds => .ok (holds text)
  | .error message => .error (.pattern message)

/-- Fails unless the last command wrote something that a pattern matches. -/
def checkStdout (c : StepContext) (pattern : String) (reader : PatternReader := Pattern.reader) :
    Checked Unit := do
  if !(← found reader pattern c.stdout) then
    throw (.detailed .assertionFailed "Expected stdout string not found"
      ("Expected stdout string '" ++ pattern ++ "' and found: '" ++ c.stdout ++ "'"))

/-- Fails if the last command wrote something that a pattern matches. -/
def checkStdoutLacks (c : StepContext) (pattern : String)
    (reader : PatternReader := Pattern.reader) : Checked Unit := do
  if ← found reader pattern c.stdout then
    throw (.detailed .assertionFailed "Unexpected stdout string found"
      ("Did not expect stdout string '" ++ pattern ++ "' but found: '" ++ c.stdout ++ "'"))

/-- Fails unless a command ran and wrote something about errors that a pattern matches. -/
def checkStderr (c : StepContext) (pattern : String) (reader : PatternReader := Pattern.reader) :
    Checked Unit := do
  if c.last.isNone then
    throw (.plain .assertionFailed "An exception was not raised and it was expected")
  if !(← found reader pattern c.stderr) then
    throw (.detailed .assertionFailed "Expected error string not found"
      ("Expected error string '" ++ pattern ++ "' and found: '" ++ c.stderr ++ "'"))

/-- Fails unless the last command ended with a status. -/
def checkStatus (c : StepContext) (expected : Int) : Checked Unit :=
  if c.status? = some expected then .ok ()
  else
    let actual := (c.status?.map Number.decimal).getD "none"
    .error (.detailed .assertionFailed "Unexpected return code"
      ("expected return code '" ++ Number.decimal expected
        ++ "' does not equal actual return code '" ++ actual ++ "' " ++ c.stderr))

end StepContext

/-! ## Operations that pass something on -/

namespace Op

variable {σ : Type}

/-- Runs a line on this host and passes its outcome on. -/
def runLineIn (c : StepContext) (line : String) : Op σ StepContext :=
  return c.record (← runLine line)

/-- Runs a utility of the cluster and passes its outcome on. -/
def runUtilityIn (c : StepContext) (line : String) : Op σ StepContext :=
  return c.record (← runUtility line)

/-- Whether something was found; the fault of the lookup is passed on. -/
def Finding.passOn (f : Finding) (c : StepContext) : Bool × StepContext :=
  (f.found, (f.failure.map c.recordLookup).getD c)

end Op

end ClusterFixture
