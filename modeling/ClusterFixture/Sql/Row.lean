/-
Rows of an answer, every column as text.

A column holds a text or nothing at all. Numbers are read from the text without the blanks around
it; a counter that the server renders with a fraction of zero still counts as an integer.
-/

import ClusterFixture.Fault
import ClusterFixture.Text.Blank

set_option autoImplicit false

namespace ClusterFixture.Sql

open ClusterFixture.Number

/-- One row of an answer. -/
structure Row where
  columns : List (Option String)
  deriving DecidableEq, Repr, Inhabited

namespace Row

/-- The row of the given texts. -/
def ofTexts (texts : List String) : Row := ⟨texts.map some⟩

/-- The number of columns. -/
def size (r : Row) : Nat := r.columns.length

/-- The text of a column, if there is one. -/
def text? (r : Row) (i : Nat) : Option String := (r.columns[i]?).join

/-- A column that holds no text. -/
def nullColumn (i : Nat) : Fault :=
  .detailed .conversionError "Column is NULL" ("column " ++ i.repr)

/-- A column that the row does not have. -/
def noColumn (r : Row) (i : Nat) : Fault :=
  .detailed .conversionError "Column index out of range"
    ("column " ++ i.repr ++ " of a " ++ r.size.repr ++ "-column row")

/-- The text of a column that must have one. -/
def text (r : Row) (i : Nat) : Checked String :=
  match r.columns[i]? with
  | some (some s) => .ok s
  | some none => .error (nullColumn i)
  | none => .error (noColumn r i)

/-- A number with a fraction where an integer is needed. -/
def fractional (text : String) : Fault :=
  .detailed .conversionError "Expected an integral value" text

/-- The integer that a text without blanks around it writes: an integer literal, or a decimal
literal without a fraction, then kept within 64 bits. -/
def integerOf (s : String) : Checked Int :=
  match readInteger (signedRange 64) s with
  | .ok n => .ok n
  | .error _ =>
    match readDecimal s with
    | .error f => .error (.decimal f)
    | .ok x =>
      match x.toInt? with
      | some n => .ok ((signedRange 64).clamp n)
      | none => .error (fractional s)

/-- The integer of a column. -/
def integer (r : Row) (i : Nat) : Checked Int := do integerOf (Text.trim (← r.text i))

/-- The number of a column. -/
def number (r : Row) (i : Nat) : Checked Binary64 := do
  match readDecimal (Text.trim (← r.text i)) with
  | .ok x => .ok x
  | .error f => .error (.decimal f)

/-- The integer of a range that a column writes as an integer literal. -/
def integerIn (range : IntRange) (r : Row) (i : Nat) : Checked Int := do
  match readInteger range (Text.trim (← r.text i)) with
  | .ok n => .ok n
  | .error f => .error (.integer f)

end Row

end ClusterFixture.Sql
