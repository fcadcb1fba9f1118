/-
Values of settings before they are read, and how layers of them are laid over each other.

A table laid over a table is merged member by member, to any depth; anything else takes the place of
what was there, and a table takes the place of what is no table as soon as it has a member. So a
layer that sets some members leaves the others as an earlier layer set them. Names of members do not
depend on letter case; inside lists they stay as they are.
-/

import ClusterFixture.Number.Shortest
import ClusterFixture.Text.Case
import ClusterFixture.Text.Search

set_option autoImplicit false

namespace ClusterFixture.Settings

open ClusterFixture.Number (Binary64)

/-! ## Values -/

/-- Where a value was found. -/
inductive Origin where
  | file (path : String)
  | environment
  deriving DecidableEq, Repr

/-- The name of an origin. -/
def Origin.name : Origin → String
  | .file path => path
  | .environment => "the environment"

/-- A value without parts. -/
inductive Scalar where
  | nothing
  | flag (b : Bool)
  /-- An integer of 64 bits. -/
  | integer (n : Int)
  | number (x : Binary64)
  | text (s : String)
  deriving DecidableEq, Repr

/-- A value, with its origin if it has a single one. -/
inductive Value where
  | scalar (origin? : Option Origin) (s : Scalar)
  | list (origin? : Option Origin) (items : List Value)
  | table (origin? : Option Origin) (members : List (String × Value))
  deriving Repr, Inhabited

namespace Value

/-- No value. -/
def nothing : Value := .scalar none .nothing

/-- A table without members. -/
def empty : Value := .table none []

/-- The origin of a value. -/
def origin? : Value → Option Origin
  | .scalar o _ => o
  | .list o _ => o
  | .table o _ => o

/-- The members of a table; anything else has none. -/
def members : Value → List (String × Value)
  | .table _ ms => ms
  | _ => []

/-- The items of a list; anything else has none. -/
def items : Value → List Value
  | .list _ vs => vs
  | _ => []

/-- A table with the given members in place of its own; anything else becomes one. -/
def withMembers (ms : List (String × Value)) : Value → Value
  | .table o _ => .table o ms
  | _ => .table none ms

/-- A list with the given items in place of its own; anything else becomes one. -/
def withItems (vs : List Value) : Value → Value
  | .list o _ => .list o vs
  | _ => .list none vs

/-! ## Members -/

/-- The members with one under the given name, in place of an earlier one. -/
def putMember (name : String) (v : Value) : List (String × Value) → List (String × Value)
  | [] => [(name, v)]
  | (k, old) :: rest => if k = name then (k, v) :: rest else (k, old) :: putMember name v rest

/-- The value of a member. -/
def member? (name : String) (ms : List (String × Value)) : Option Value := ms.lookup name

theorem member?_putMember_self (name : String) (v : Value) (ms : List (String × Value)) :
    member? name (putMember name v ms) = some v := by
  induction ms with
  | nil => simp [putMember, member?]
  | cons m rest ih =>
    obtain ⟨k, old⟩ := m
    simp only [putMember]
    split
    · next h => simp [member?, h]
    · next h => simpa [member?, List.lookup_cons, beq_false_of_ne (Ne.symm h)] using ih

theorem member?_putMember_of_ne {name other : String} (v : Value) (ms : List (String × Value))
    (h : other ≠ name) : member? other (putMember name v ms) = member? other ms := by
  induction ms with
  | nil => simp [putMember, member?, beq_false_of_ne h, List.lookup_cons]
  | cons m rest ih =>
    obtain ⟨k, old⟩ := m
    simp only [putMember]
    split
    · next hk =>
      subst hk
      simp [member?, List.lookup_cons, beq_false_of_ne h]
    · simp only [member?, List.lookup_cons] at ih ⊢
      split <;> simp_all

/-! ## Laying over -/

mutual

/-- The members with a value laid over the one of the given name. -/
def layMember (name : String) : Value → List (String × Value) → List (String × Value)
  | .table _ incoming, ms =>
    putMember name (layMembers incoming ((member? name ms).getD empty)) ms
  | .scalar o s, ms => putMember name (.scalar o s) ms
  | .list o vs, ms => putMember name (.list o vs) ms

/-- A value with members laid over it. -/
def layMembers : List (String × Value) → Value → Value
  | [], target => target
  | (name, v) :: rest, target =>
    layMembers rest (target.withMembers (layMember (Text.lower name) v target.members))

end

end Value

/-! ## Places inside a value -/

/-- A way from a value to one of its parts. -/
inductive Access where
  | member (name : String)
  /-- An item of a list, counted from the end where the number is negative. -/
  | item (index : Int)
  deriving DecidableEq, Repr

namespace Value

/-- The place of an item in a list of so many. -/
def itemPlace (index : Int) (length : Nat) : Nat :=
  if 0 ≤ index then index.toNat else (length + index).toNat

/-- Lays a value over the part at a place. What leads there becomes a table or a list, where it is
none; an item is replaced, never merged. -/
def lay (v : Value) : List Access → Value → Value
  | [], _ => v
  | [.member name], target =>
    target.withMembers (layMember (Text.lower name) v target.members)
  | .member name :: rest, target =>
    let name := Text.lower name
    let part := (member? name target.members).getD nothing
    target.withMembers (putMember name (lay v rest part) target.members)
  | .item index :: rest, target =>
    let items := target.items
    let n := itemPlace index items.length
    let items := items ++ List.replicate (n + 1 - items.length) nothing
    target.withItems (items.set n (lay v rest (items[n]?.getD nothing)))

end Value

/-! ## Names as places -/

/-- A character of a name that can be a step of a place. -/
def isStepChar (c : Char) : Bool := c.isAlphanum || c = ' ' || c = '_' || c = '-'

/-- An index in brackets, blanks around it aside, with what follows the closing bracket. -/
def readIndex? (cs : List Char) : Option (Int × List Char) :=
  let isSpace (c : Char) : Bool := c = ' ' || c = '\t'
  let cs := cs.dropWhile isSpace
  let (neg, cs) := match cs with
    | '-' :: rest => (true, rest)
    | _ => (false, cs)
  let digits := cs.takeWhile Char.isDigit
  let sign := if neg then ['-'] else []
  match (Number.readIntegerChars (Number.signedRange 64) (sign ++ digits)).toOption,
      (cs.drop digits.length).dropWhile isSpace with
  | some n, ']' :: rest => if digits.isEmpty then none else some (n, rest)
  | _, _ => none

/-- The further steps of a place: a point and a name, or an index in brackets. -/
def readSteps? : Nat → List Char → Option (List Access)
  | _, [] => some []
  | 0, _ => none
  | n + 1, '.' :: rest =>
    let name := rest.takeWhile isStepChar
    if name.isEmpty then none
    else (readSteps? n (rest.drop name.length)).map (.member (String.ofList name) :: ·)
  | n + 1, '[' :: rest =>
    match readIndex? rest with
    | some (index, rest) => (readSteps? n rest).map (.item index :: ·)
    | none => none
  | _, _ => none

/-- The place that a name stands for; one that is written differently is the name of a member. -/
def placeOf (name : String) : List Access :=
  let cs := name.toList
  let first := cs.takeWhile isStepChar
  let steps? := if first.isEmpty then none else readSteps? cs.length (cs.drop first.length)
  match steps? with
  | some steps => .member (String.ofList first) :: steps
  | none => [.member name]

/-! ## Layers -/

/-- Names, each a place, and their values. -/
abbrev Layer := List (String × Value)

/-- A table with a layer laid over it. -/
def Layer.over (layer : Layer) (target : Value) : Value :=
  layer.foldl (fun target (name, v) => v.lay (placeOf name) target) target

end ClusterFixture.Settings
