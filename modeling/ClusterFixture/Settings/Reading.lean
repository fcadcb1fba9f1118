/-
Taking values of settings for what is wanted.

A text is taken for a number or a flag where it spells one, a number for a text as it is written in
decimal, and a number that is no integer for the nearest one. A fault of a scalar tells where the
value came from and the way to it from the whole.
-/

import ClusterFixture.Settings.Document
import ClusterFixture.Settings.Value
import ClusterFixture.Text.Quoted

set_option autoImplicit false

namespace ClusterFixture.Settings

open ClusterFixture.Number (Binary64 decimal)

/-! ## Faults -/

/-- A step from a value to one of its parts. -/
inductive Step where
  | member (name : String)
  | item (place : Nat)
  deriving DecidableEq, Repr

/-- The text of a way: the names are joined by points, and the places of items stand in brackets. -/
def wayText : List Step → String
  | [] => ""
  | .member name :: rest =>
    let below := wayText rest
    name ++ (if below.isEmpty || Text.startsWith below "[" then "" else ".") ++ below
  | .item place :: rest => "[" ++ place.repr ++ "]" ++ wayText rest

/-- Why a value is not what is wanted. -/
inductive ValueFault where
  /-- A scalar is wanted, and the value spells none of the kind. -/
  | spelling (found wanted : String) (origin? : Option Origin) (way : List Step)
  /-- A value with parts of another kind is wanted. -/
  | shape (found wanted : String)
  | missing (name : String)
  | tooShort (place : Nat) (title : String) (members : Nat)
  deriving DecidableEq, Repr

namespace ValueFault

/-- Whether it is a fault of a scalar. -/
def isSpelling : ValueFault → Bool
  | .spelling .. => true
  | _ => false

/-- What is said of it. -/
def message : ValueFault → String
  | .spelling found wanted origin? way =>
    "invalid type: " ++ found ++ ", expected " ++ wanted
      ++ (if way.isEmpty then "" else " for key `" ++ wayText way ++ "`")
      ++ (match origin? with
        | some o => " in " ++ o.name
        | none => "")
  | .shape found wanted => "invalid type: " ++ found ++ ", expected " ++ wanted
  | .missing name => "missing field `" ++ name ++ "`"
  | .tooShort place title members =>
    "invalid length " ++ place.repr ++ ", expected struct " ++ title ++ " with " ++ members.repr
      ++ " elements"

end ValueFault

/-! ## Values in their places -/

/-- A part of a whole: the way to it, the last step first, and its value. -/
structure Located where
  way : List Step
  value : Value
  deriving Repr

namespace Located

/-- The whole. -/
def whole (v : Value) : Located := ⟨[], v⟩

/-- The text of a flag. -/
def flagText (b : Bool) : String := if b then "true" else "false"

/-- A number with a point or in words. -/
def pointed (x : Binary64) : String :=
  let s := x.display
  match x with
  | .finite .. => if s.contains '.' then s else s ++ ".0"
  | _ => s

/-- The word for what a value is, where a value with other parts is wanted. -/
def kind : Value → String
  | .scalar _ .nothing => "unit value"
  | .scalar _ (.flag b) => "boolean `" ++ flagText b ++ "`"
  | .scalar _ (.integer n) => "integer `" ++ decimal n ++ "`"
  | .scalar _ (.number x) => "floating point `" ++ pointed x ++ "`"
  | .scalar _ (.text s) => "string " ++ Text.quoted s
  | .list _ _ => "sequence"
  | .table _ _ => "map"

/-- The fault of a value that spells nothing of the wanted kind. -/
def misspelled (v : Located) (found wanted : String) : ValueFault :=
  .spelling found wanted v.value.origin? v.way.reverse

/-! ## Scalars -/

/-- A value as text. -/
def text (v : Located) : Except ValueFault String :=
  match v.value with
  | .scalar _ (.text s) => .ok s
  | .scalar _ (.flag b) => .ok (flagText b)
  | .scalar _ (.integer n) => .ok (decimal n)
  | .scalar _ (.number x) => .ok x.display
  | other => .error (v.misspelled (kind other) "a string")

/-- The flag that a word in lower case means where a number is wanted. -/
def switchWord? (word : String) : Option Bool :=
  if ["true", "on", "yes"].contains word then some true
  else if ["false", "off", "no"].contains word then some false
  else none

/-- A value as a flag. -/
def flag (v : Located) : Except ValueFault Bool :=
  match v.value with
  | .scalar _ (.flag b) => .ok b
  | .scalar _ (.integer n) => .ok (n ≠ 0)
  | .scalar _ (.number x) => .ok (!x.same .zero)
  | .scalar _ (.text s) =>
    let word := Text.lower s
    match switchWord? word with
    | some b => .ok b
    | none =>
      if word = "1" then .ok true
      else if word = "0" then .ok false
      else .error (v.misspelled ("string " ++ Text.quoted word) "a boolean")
  | other => .error (v.misspelled (kind other) "a boolean")

/-- The integer of a range nearest to a number, halves away from zero; what is no number gives
zero. -/
def rounded (r : Number.IntRange) : Binary64 → Int
  | .nan => 0
  | .infinite neg => if neg then r.low else r.high
  | .finite neg m e =>
    let (num, den) := Binary64.ratio m e
    let n : Int := (2 * num + den) / (2 * den)
    r.clamp (if neg then -n else n)

/-- A value as an integer of a range. -/
def integerIn (r : Number.IntRange) (v : Located) : Except ValueFault Int :=
  match v.value with
  | .scalar _ (.integer n) =>
    if r.holds n then .ok n
    else .error (v.misspelled ("64-bit integer `" ++ decimal n ++ "`")
      "an unsigned 64 bit or less integer")
  | .scalar _ (.flag b) => .ok (if b then 1 else 0)
  | .scalar _ (.number x) => .ok (rounded r x)
  | .scalar _ (.text s) =>
    match switchWord? (Text.lower s), Number.readInteger r s with
    | some b, _ => .ok (if b then 1 else 0)
    | none, .ok n => .ok n
    | none, .error _ => .error (v.misspelled ("string " ++ Text.quoted s) "an integer")
  | other => .error (v.misspelled (kind other) "an integer")

/-- A value as an integer of 64 bits. -/
def integer (v : Located) : Except ValueFault Int := v.integerIn (Number.signedRange 64)

/-- A value as an integer without a sign. It is read with 64 bits first; where fewer are wanted, the
fault does not tell where the value came from. -/
def unsigned (bits : Nat) (v : Located) : Except ValueFault Nat := do
  let n ← v.integerIn (Number.unsignedRange 64)
  if (Number.unsignedRange bits).holds n then return n.toNat
  else throw (.spelling ("64-bit unsigned integer `" ++ decimal n ++ "`")
    ("an unsigned " ++ bits.repr ++ " bit integer") none v.way.reverse)

/-! ## Values with parts -/

/-- The members of a table. -/
def members (v : Located) : List (String × Located) :=
  v.value.members.map fun (name, part) => (name, ⟨.member name :: v.way, part⟩)

/-- The items of a list. -/
def items (v : Located) : List Located :=
  (v.value.items.zipIdx).map fun (part, k) => ⟨.item k :: v.way, part⟩

/-- The parts of a record. -/
def parts (title : String) (v : Located) : Except ValueFault (Parts Located) :=
  match v.value with
  | .table _ _ => .ok (.members v.members)
  | .list _ _ => .ok (.items v.items)
  | other => .error (.shape (kind other) ("struct " ++ title))

/-- A list, each item read. -/
def listOf {α : Type} (read : Located → Except ValueFault α) (v : Located) :
    Except ValueFault (List α) :=
  match v.value with
  | .list _ _ => v.items.mapM read
  | other => .error (.shape (kind other) "a sequence")

/-- A table, the value of each member read. -/
def tableOf {α : Type} (read : Located → Except ValueFault α) (v : Located) :
    Except ValueFault (List (String × α)) :=
  match v.value with
  | .table _ _ => v.members.mapM fun (name, part) => return (name, ← read part)
  | other => .error (.shape (kind other) "a map")

end Located

/-- Settings in layered values. -/
def layeredForm : Form Located ValueFault where
  record := Located.parts
  text := Located.text
  path := Located.text
  flag := Located.flag
  unsigned := Located.unsigned
  isNone v := match v.value with
    | .scalar _ .nothing => true
    | _ => false
  missing := .missing
  tooShort := .tooShort
  tooLong? _ := none

end ClusterFixture.Settings
