/-
Faults: why a fixture operation did not do its job.

A fault has a kind, a fixed description and sometimes a detail; or it collects the faults of several
checks. The kind of a collection is that of its first member. Two faults are alike when their kinds
and their shapes agree, whatever their wording.
-/

import ClusterFixture.SystemError
import ClusterFixture.Number.Decimal

set_option autoImplicit false

namespace ClusterFixture

/-- The categories of faults. -/
inductive FaultKind where
  /-- The server cannot be reached or refuses the session. -/
  | connectionFailed
  /-- The server refuses a statement. -/
  | queryFailed
  /-- A query that must answer has no answer. -/
  | emptyResult
  /-- A command ended with a failure. -/
  | commandFailed
  /-- Waiting came to its end. -/
  | timeout
  /-- A check of the scenario does not hold. -/
  | assertionFailed
  /-- Two sets of data that must agree do not. -/
  | dataMismatch
  /-- The caller asked for something that makes no sense. -/
  | invalidInput
  /-- The settings are unusable. -/
  | configError
  /-- A file cannot be read or written. -/
  | ioError
  /-- A text is not what it should denote. -/
  | conversionError
  /-- Nothing is known. -/
  | unknown
  deriving DecidableEq, Repr, Inhabited

/-- The name of a kind, as reports show it. -/
def FaultKind.name : FaultKind → String
  | .connectionFailed => "ConnectionFailed"
  | .queryFailed => "QueryFailed"
  | .emptyResult => "EmptyResult"
  | .commandFailed => "CommandFailed"
  | .timeout => "Timeout"
  | .assertionFailed => "AssertionFailed"
  | .dataMismatch => "DataMismatch"
  | .invalidInput => "InvalidInput"
  | .configError => "ConfigError"
  | .ioError => "IoError"
  | .conversionError => "ConversionError"
  | .unknown => "Unknown"

/-- A fault, or a collection of faults. -/
inductive Fault where
  | plain (kind : FaultKind) (description : String)
  | detailed (kind : FaultKind) (description detail : String)
  | several (faults : List Fault)
  deriving Repr, Inhabited

namespace Fault

/-! ## What a fault contains -/

/-- The kind of a fault; of a collection, that of its first member. -/
def kind : Fault → FaultKind
  | .plain k _ => k
  | .detailed k _ _ => k
  | .several [] => .unknown
  | .several (first :: _) => first.kind

mutual

/-- The kinds of all members, in order. -/
def kinds : Fault → List FaultKind
  | .plain k _ => [k]
  | .detailed k _ _ => [k]
  | .several faults => kindsOf faults

/-- The kinds of the members of a list. -/
def kindsOf : List Fault → List FaultKind
  | [] => []
  | fault :: rest => fault.kinds ++ kindsOf rest

end

mutual

/-- The first detail of a fault. -/
def detail? : Fault → Option String
  | .plain _ _ => none
  | .detailed _ _ detail => some detail
  | .several faults => detailOf? faults

/-- The first detail of a list. -/
def detailOf? : List Fault → Option String
  | [] => none
  | fault :: rest => fault.detail?.or (detailOf? rest)

end

/-! ## Likeness -/

mutual

/-- Whether two faults have the same shape and the same kinds. -/
def alike : Fault → Fault → Bool
  | .plain k _, .plain l _ => k == l
  | .detailed k _ _, .detailed l _ _ => k == l
  | .several faults, .several others => alikeAll faults others
  | _, _ => false

/-- Whether two lists are of one length and alike in every place. -/
def alikeAll : List Fault → List Fault → Bool
  | [], [] => true
  | fault :: rest, other :: others => fault.alike other && alikeAll rest others
  | _, _ => false

end

/-! ## Wording -/

mutual

/-- What a fault says. -/
def message : Fault → String
  | .plain k description => k.name ++ ": " ++ description
  | .detailed k description detail => k.name ++ ": " ++ description ++ " -> " ++ detail
  | .several [] => "Multiple errors occurred (empty)"
  | .several [single] => single.message
  | .several faults =>
    "Multiple errors occurred (" ++ faults.length.repr ++ " total):" ++ listing 1 faults

/-- The members of a list on lines of their own, numbered from `first`. -/
def listing (first : Nat) : List Fault → String
  | [] => ""
  | fault :: rest =>
    "\n  " ++ first.repr ++ ": " ++ fault.message ++ listing (first + 1) rest

end

/-! ## Faults of parts of the library -/

/-- A file or a process could not be dealt with. -/
def io (text : String) : Fault := .detailed .ioError "I/O error occurred" text

/-- The operating system reported an error. -/
def system (e : SystemError) : Fault := io e.message

/-- A text is no integer of its range. -/
def integer (f : Number.IntegerFault) : Fault :=
  .detailed .conversionError "Integer parsing failed" f.message

/-- A text is no decimal literal. -/
def decimal (f : Number.DecimalFault) : Fault :=
  .detailed .conversionError "Float parsing failed" f.message

/-- A text is no pattern. -/
def pattern (why : String) : Fault := .detailed .invalidInput "Invalid pattern" why

end Fault

/-- The outcome of a fixture operation without effects. -/
abbrev Checked (α : Type) := Except Fault α

/-- Two steps that may fail answer a value when both do. -/
theorem bind_eq_ok_iff {ε α β : Type} {x : Except ε α} {next : α → Except ε β} {b : β} :
    (x >>= next) = .ok b ↔ ∃ a, x = .ok a ∧ next a = .ok b := by
  cases x with
  | error f => simp [bind, Except.bind]
  | ok a => simp [bind, Except.bind]

end ClusterFixture
