/-
JSON values.

A number is an integer of 64 bits, signed or unsigned, or else a binary64 number. The members of an
object stand in the order of their keys, each key once.
-/

import ClusterFixture.Number.Binary64

set_option autoImplicit false

namespace ClusterFixture

/-- A JSON value. -/
inductive Json where
  | null
  | bool (b : Bool)
  | integer (n : Int)
  | float (x : Number.Binary64)
  | string (s : String)
  | array (items : List Json)
  | object (members : List (String × Json))
  deriving Repr, Inhabited

namespace Json

/-- The members with one more, which takes the place of an earlier one under the same key. -/
def insert (key : String) (value : Json) : List (String × Json) → List (String × Json)
  | [] => [(key, value)]
  | (k, v) :: rest =>
    if key < k then (key, value) :: (k, v) :: rest
    else if k = key then (key, value) :: rest
    else (k, v) :: insert key value rest

/-- The object of the given members; of two under one key, the later counts. -/
def ofMembers (members : List (String × Json)) : Json :=
  .object (members.foldl (fun done (k, v) => insert k v done) [])

/-- The value of a member. -/
def lookup? (key : String) (members : List (String × Json)) : Option Json :=
  (members.find? fun m => m.1 == key).map (·.2)

/-- The value of a member of an object. -/
def member? (key : String) : Json → Option Json
  | .object members => lookup? key members
  | _ => none

/-- A member that was inserted is found under its key. -/
theorem lookup?_insert_self (key : String) (value : Json) (members : List (String × Json)) :
    lookup? key (insert key value members) = some value := by
  induction members with
  | nil => simp [insert, lookup?]
  | cons m rest ih =>
    obtain ⟨k, v⟩ := m
    simp only [insert]
    split
    · simp [lookup?]
    · split
      · simp [lookup?]
      · next h => simpa [lookup?, h] using ih

theorem lookup?_insert_of_ne {key other : String} (value : Json)
    (members : List (String × Json)) (h : other ≠ key) :
    lookup? other (insert key value members) = lookup? other members := by
  induction members with
  | nil => simp [insert, lookup?, Ne.symm h]
  | cons m rest ih =>
    obtain ⟨k, v⟩ := m
    simp only [insert]
    split
    · simp [lookup?, Ne.symm h]
    · split
      · next hk => subst hk; simp [lookup?, Ne.symm h]
      · simp only [lookup?] at ih ⊢
        by_cases hk : k = other <;> simp_all

end Json

end ClusterFixture
