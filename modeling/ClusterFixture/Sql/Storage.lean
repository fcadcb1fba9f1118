/-
How tables are stored: what the catalog reports of a relation, and what a new table is given.
-/

import ClusterFixture.Fault
import ClusterFixture.Text.Blank
import ClusterFixture.Text.Case

set_option autoImplicit false

namespace ClusterFixture.Sql

/-! ## Existing relations -/

/-- The storage of an existing relation. -/
inductive RelationKind where
  | appendOnly
  | columnar
  | heap
  | external
  | view
  deriving DecidableEq, Repr

namespace RelationKind

/-- The word for a kind. -/
def word : RelationKind → String
  | .appendOnly => "ao"
  | .columnar => "co"
  | .heap => "heap"
  | .external => "external"
  | .view => "view"

/-- A text that names no kind. -/
def unknownKind (text : String) : Fault := .detailed .invalidInput "Unknown table type" text

/-- The kind that a code of the catalog denotes, blanks around it aside. -/
def ofCode (code : String) : Checked RelationKind :=
  match Text.trim code with
  | "a" => .ok .appendOnly
  | "c" => .ok .columnar
  | "h" => .ok .heap
  | "x" => .ok .external
  | "v" => .ok .view
  | other => .error (unknownKind other)

/-- The kind that a word names, blanks around it aside. -/
def ofWord (text : String) : Checked RelationKind :=
  match Text.trim text with
  | "ao" => .ok .appendOnly
  | "co" => .ok .columnar
  | "heap" => .ok .heap
  | "external" => .ok .external
  | "view" => .ok .view
  | other => .error (unknownKind other)

end RelationKind

/-! ## New tables -/

/-- The storage of a new table. -/
inductive Storage where
  | heap
  | row
  | column
  deriving DecidableEq, Repr

namespace Storage

/-- The orientation of append-only storage. -/
def orientation? : Storage → Option String
  | .heap => none
  | .row => some "row"
  | .column => some "column"

/-- The storage that a word names, in any ASCII letter case and blanks around it aside. -/
def ofWord (text : String) : Checked Storage :=
  match Text.upperAscii (Text.trim text) with
  | "HEAP" => .ok .heap
  | "AO" => .ok .row
  | "CO" => .ok .column
  | _ => .error (.detailed .invalidInput "Invalid table type specified" text)

end Storage

/-- The two layouts of append-only tables. -/
inductive AppendOnlyLayout where
  | rows
  | columns
  deriving DecidableEq, Repr

end ClusterFixture.Sql
