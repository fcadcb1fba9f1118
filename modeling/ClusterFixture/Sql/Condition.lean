/-
Conditions on rows: what a counting query asks for, as text and as a test.

A condition compares columns, which it calls by their names, with values. Where a column holds
nothing, a comparison is neither true nor false; a row counts only where the condition is true.
-/

import ClusterFixture.Sql.Quote
import ClusterFixture.Sql.Row

set_option autoImplicit false

namespace ClusterFixture.Sql

/-- A condition on the columns of a row. -/
inductive Condition where
  | equals (column value : String)
  | differs (column value : String)
  | either (left right : Condition)
  deriving DecidableEq, Repr

namespace Condition

/-- A condition as a statement writes it. -/
def text : Condition → String
  | .equals column value => column ++ " = " ++ literal value
  | .differs column value => column ++ " <> " ++ literal value
  | .either left right => left.text ++ " or " ++ right.text

/-- Whether one of two conditions is true, where nothing may be known of either. -/
def oneOf : Option Bool → Option Bool → Option Bool
  | some true, _ => some true
  | _, some true => some true
  | some false, some false => some false
  | _, _ => none

/-- Whether a condition is true of a row with the given columns, as far as that is known. -/
def truth (columns : List String) (row : Row) : Condition → Option Bool
  | .equals column value => (row.text? (columns.idxOf column)).map (· == value)
  | .differs column value => (row.text? (columns.idxOf column)).map (· != value)
  | .either left right => oneOf (left.truth columns row) (right.truth columns row)

/-- The number of rows of which a condition is true. -/
def countIn (columns : List String) (rows : List Row) (c : Condition) : Nat :=
  rows.countP fun row => c.truth columns row == some true

/-- The query that asks a table for this number. -/
def countQuery (table : String) (c : Condition) : String :=
  "select count(*) from " ++ table ++ " where " ++ c.text

@[simp] theorem oneOf_some (a b : Bool) : oneOf (some a) (some b) = some (a || b) := by
  cases a <;> cases b <;> rfl

end Condition

end ClusterFixture.Sql
