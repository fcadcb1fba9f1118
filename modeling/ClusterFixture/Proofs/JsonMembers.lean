/-
The members of a JSON object as a finite map.

The keys of an object stand in order, each once. Putting a member in keeps them so, and so does
making an object of any members. Of several under one key, the last is the one that is found.
-/

import ClusterFixture.Json.Basic
import Mathlib.Data.List.Induction
import Mathlib.Data.String.Basic

set_option autoImplicit false

namespace ClusterFixture.Json

/-! ## Keys in order -/

/-- Whether the keys stand in order, each once. -/
def InOrder (members : List (String × Json)) : Prop := members.Pairwise fun a b => a.1 < b.1

variable {members : List (String × Json)}

theorem inOrder_nil : InOrder [] := .nil

/-- A member that was put in is found among the others. -/
theorem mem_insert {key : String} {value : Json} {m : String × Json}
    (h : m ∈ insert key value members) : m = (key, value) ∨ m ∈ members := by
  induction members with
  | nil => exact .inl (List.mem_singleton.mp h)
  | cons first rest ih =>
    rw [insert] at h
    split at h
    · exact List.mem_cons.mp h
    · split at h
      · exact (List.mem_cons.mp h).imp_right (List.mem_cons_of_mem _)
      · rcases List.mem_cons.mp h with rfl | hrest
        · exact .inr List.mem_cons_self
        · exact (ih hrest).imp_right (List.mem_cons_of_mem _)

/-- Putting a member in keeps the keys in order. -/
theorem InOrder.insert (h : InOrder members) (key : String) (value : Json) :
    InOrder (Json.insert key value members) := by
  induction members with
  | nil => exact List.pairwise_singleton _ _
  | cons first rest ih =>
    obtain ⟨k, v⟩ := first
    obtain ⟨hfirst, hrest⟩ := List.pairwise_cons.mp h
    rw [Json.insert]
    split
    · next hlt =>
      refine List.pairwise_cons.mpr ⟨fun m hm => ?_, h⟩
      rcases List.mem_cons.mp hm with rfl | hm
      · exact hlt
      · exact lt_trans hlt (hfirst m hm)
    · next hlt =>
      split
      · next heq => exact List.pairwise_cons.mpr ⟨fun m hm => heq ▸ hfirst m hm, hrest⟩
      · next hne =>
        refine List.pairwise_cons.mpr ⟨fun m hm => ?_, ih hrest⟩
        rcases mem_insert hm with rfl | hm
        · exact lt_of_le_of_ne (not_lt.mp hlt) hne
        · exact hfirst m hm

/-- A member behind all others is put at the end. -/
theorem insert_eq_append {key : String} (value : Json) (h : ∀ m ∈ members, m.1 < key) :
    insert key value members = members ++ [(key, value)] := by
  induction members with
  | nil => rfl
  | cons first rest ih =>
    obtain ⟨hfirst, hrest⟩ := List.forall_mem_cons.mp h
    rw [insert, if_neg (not_lt_of_gt hfirst), if_neg hfirst.ne, ih hrest, List.cons_append]

/-! ## Objects from members -/

/-- The members of an object that is made of members. -/
def membersOf (raw : List (String × Json)) : List (String × Json) :=
  raw.foldl (fun done m => insert m.1 m.2 done) []

theorem ofMembers_eq (raw : List (String × Json)) : ofMembers raw = .object (membersOf raw) := rfl

theorem membersOf_concat (raw : List (String × Json)) (key : String) (value : Json) :
    membersOf (raw ++ [(key, value)]) = insert key value (membersOf raw) := by
  rw [membersOf, List.foldl_append]
  rfl

theorem inOrder_membersOf (raw : List (String × Json)) : InOrder (membersOf raw) := by
  induction raw using List.reverseRecOn with
  | nil => exact inOrder_nil
  | append_singleton raw m ih =>
    rw [membersOf_concat]
    exact ih.insert m.1 m.2

theorem mem_of_mem_membersOf {raw : List (String × Json)} {m : String × Json}
    (h : m ∈ membersOf raw) : m ∈ raw := by
  induction raw using List.reverseRecOn with
  | nil => exact h
  | append_singleton raw last ih =>
    rw [membersOf_concat] at h
    rcases mem_insert h with rfl | h
    · simp
    · exact List.mem_append_left _ (ih h)

/-- Members in order are those of the object that is made of them. -/
theorem InOrder.membersOf (h : InOrder members) : Json.membersOf members = members := by
  -- The induction is on the last member: it comes behind all others, so it is put at the end.
  induction members using List.reverseRecOn with
  | nil => rfl
  | append_singleton before m ih =>
    obtain ⟨hbefore, -, hlast⟩ := List.pairwise_append.mp h
    rw [membersOf_concat, ih hbefore]
    exact insert_eq_append m.2 fun m' hm' => hlast m' hm' m (List.mem_singleton_self m)

/-- **Of several members under one key, the last is found.** -/
theorem lookup?_membersOf (key : String) (raw : List (String × Json)) :
    lookup? key (membersOf raw) = lookup? key raw.reverse := by
  induction raw using List.reverseRecOn with
  | nil => rfl
  | append_singleton raw m ih =>
    obtain ⟨k, v⟩ := m
    rw [membersOf_concat, List.reverse_concat]
    by_cases hk : key = k
    · rw [hk, lookup?_insert_self, lookup?, List.find?_cons_of_pos (by simp)]
      rfl
    · rw [lookup?_insert_of_ne v _ hk, ih, lookup?, lookup?,
        List.find?_cons_of_neg (by simpa using Ne.symm hk)]

/-- What is found among members whose values are changed is what was found, changed. -/
theorem lookup?_map (f : Json → Json) (key : String) (members : List (String × Json)) :
    lookup? key (members.map fun m => (m.1, f m.2)) = (lookup? key members).map f := by
  induction members with
  | nil => rfl
  | cons m rest ih =>
    rw [List.map_cons, lookup?, lookup?]
    by_cases hk : m.1 = key
    · rw [List.find?_cons_of_pos (by simpa using hk), List.find?_cons_of_pos (by simpa using hk)]
      rfl
    · rw [List.find?_cons_of_neg (by simpa using hk), List.find?_cons_of_neg (by simpa using hk)]
      exact ih

end ClusterFixture.Json
