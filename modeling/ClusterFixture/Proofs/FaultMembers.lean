/-
What faults are made of, and which of their kinds is theirs.

A fault that collects others is a tree, and the faults at its ends are what the checks reported. The
kinds of a fault are those of its ends, in order. Its own kind is looked for along first members
only. So a fault has the first of its kinds, unless the way along first members comes to a
collection of nothing: then its kind is unknown, whatever the other members are.
-/

import ClusterFixture.Fault
import Mathlib.Data.List.Basic

set_option autoImplicit false

namespace ClusterFixture.Fault

/-! ## Members -/

/-- What holds of a fault that collects no others, and of a collection when it holds of its members,
holds of every fault. -/
@[elab_as_elim, induction_eliminator]
theorem inductionOnMembers {motive : Fault → Prop}
    (plain : ∀ kind description, motive (.plain kind description))
    (detailed : ∀ kind description detail, motive (.detailed kind description detail))
    (several : ∀ faults, (∀ fault ∈ faults, motive fault) → motive (.several faults)) :
    ∀ f, motive f
  | .plain kind description => plain kind description
  | .detailed kind description detail => detailed kind description detail
  | .several faults =>
    several faults fun fault _ => inductionOnMembers plain detailed several fault

@[simp] theorem kinds_several (faults : List Fault) :
    (several faults).kinds = faults.flatMap kinds := by
  rw [kinds]
  induction faults with
  | nil => rfl
  | cons fault rest ih => rw [kindsOf, ih, List.flatMap_cons]

mutual

/-- The faults at the ends of a fault, which collect no others, in order. -/
def leaves : Fault → List Fault
  | .plain k description => [.plain k description]
  | .detailed k description detail => [.detailed k description detail]
  | .several faults => leavesOf faults

/-- The ends of the members of a list. -/
def leavesOf : List Fault → List Fault
  | [] => []
  | fault :: rest => fault.leaves ++ leavesOf rest

end

@[simp] theorem leaves_several (faults : List Fault) :
    (several faults).leaves = faults.flatMap leaves := by
  rw [leaves]
  induction faults with
  | nil => rfl
  | cons fault rest ih => rw [leavesOf, ih, List.flatMap_cons]

/-- The kinds of a fault are those of its ends. -/
theorem kinds_eq_map_leaves (f : Fault) : f.kinds = f.leaves.map kind := by
  induction f with
  | plain k description => rfl
  | detailed k description detail => rfl
  | several faults ih =>
    rw [kinds_several, leaves_several, List.map_flatMap]
    exact List.flatMap_congr ih

/-! ## The kind of a fault -/

/-- Where the way along first members ends: at a fault that collects no others, or at a collection
of nothing. -/
def foremost : Fault → Fault
  | .plain k description => .plain k description
  | .detailed k description detail => .detailed k description detail
  | .several [] => .several []
  | .several (first :: _) => first.foremost

/-- A fault has the kind that the way along first members ends at. -/
theorem kind_foremost (f : Fault) : f.foremost.kind = f.kind := by
  induction f with
  | plain k description => rfl
  | detailed k description detail => rfl
  | several faults ih =>
    cases faults with
    | nil => rfl
    | cons first rest => exact ih first List.mem_cons_self

/-- The way along first members ends at the first end of the fault, if it does not end at a
collection of nothing. -/
theorem head?_leaves {f : Fault} (h : f.foremost ≠ .several []) :
    f.leaves.head? = some f.foremost := by
  induction f with
  | plain k description => rfl
  | detailed k description detail => rfl
  | several faults ih =>
    cases faults with
    | nil => exact absurd rfl h
    | cons first rest =>
      have hfirst : first.leaves.head? = some first.foremost := ih first List.mem_cons_self h
      rw [leaves_several, List.flatMap_cons, List.head?_append, hfirst]
      rfl

theorem head?_kinds {f : Fault} (h : f.foremost ≠ .several []) : f.kinds.head? = some f.kind := by
  rw [kinds_eq_map_leaves, List.head?_map, head?_leaves h, Option.map_some, kind_foremost]

/-- The kind of a fault stands for its kinds: it is the first of them, and unknown exactly where
there are none or the first is unknown. -/
structure KindLeads (f : Fault) : Prop where
  first : ∀ k ∈ f.kinds.head?, f.kind = k
  unknown : f.kind = .unknown ↔ f.kinds = [] ∨ f.kinds.head? = some .unknown

theorem kindLeads_iff_getD {f : Fault} :
    f.KindLeads ↔ f.kind = f.kinds.head?.getD .unknown := by
  constructor
  · intro h
    cases hkinds : f.kinds with
    | nil => exact h.unknown.mpr (.inl hkinds)
    | cons k rest => exact h.first k (by rw [hkinds, List.head?_cons, Option.mem_some])
  · intro h
    cases hkinds : f.kinds with
    | nil =>
      rw [hkinds, List.head?_nil, Option.getD_none] at h
      exact ⟨by simp [hkinds], by simp [hkinds, h]⟩
    | cons k rest =>
      rw [hkinds, List.head?_cons, Option.getD_some] at h
      exact ⟨by simp [hkinds, h], by simp [hkinds, h]⟩

/-- The kinds of a fault are those of its ends. Its own kind is the first of them whenever the way
along first members ends at one; where it ends at a collection of nothing, the kind is unknown, and
one of its kinds only if some end has it. So the kind stands for the kinds exactly if, in that case,
there are no ends or the first one is of the unknown kind as well. -/
theorem kindLeads_iff (f : Fault) :
    f.kinds = f.leaves.map kind ∧
      (f.foremost ≠ .several [] → f.leaves.head? = some f.foremost ∧ f.kinds.head? = some f.kind) ∧
      (f.foremost = .several [] → f.kind = .unknown) ∧
      (f.kind ∈ f.kinds ↔ f.foremost ≠ .several [] ∨ .unknown ∈ f.kinds) ∧
      (f.KindLeads ↔
        (f.foremost = .several [] → ∀ leaf ∈ f.leaves.head?, leaf.kind = .unknown)) := by
  have hhollow (h : f.foremost = .several []) : f.kind = .unknown := by
    rw [← kind_foremost, h, kind]
  refine ⟨f.kinds_eq_map_leaves, fun h => ⟨head?_leaves h, head?_kinds h⟩, hhollow, ?_⟩
  rw [kindLeads_iff_getD]
  by_cases h : f.foremost = .several []
  · -- the kind says nothing of the ends, so the first end has to agree with it
    refine ⟨by simp [h, hhollow h], ?_⟩
    rw [hhollow h, kinds_eq_map_leaves, List.head?_map]
    cases f.leaves.head? with
    | none => simp
    | some leaf => simp [h, eq_comm]
  · have hfirst : f.kinds.head? = some f.kind := head?_kinds h
    exact ⟨by simp [h, List.mem_of_head? hfirst], by simp [h, hfirst]⟩

/-- Checks of which the first one has nothing to say. -/
def hollowFront : Fault := .several [.several [], .plain .ioError "disk full"]

/-- The kind of a fault with a collection of nothing in front is none of its kinds. -/
theorem not_kindLeads_hollowFront :
    ¬hollowFront.KindLeads ∧ hollowFront.kind = .unknown ∧ hollowFront.kinds = [.ioError] := by
  refine ⟨fun h => ?_, rfl, rfl⟩
  cases h.first .ioError rfl

end ClusterFixture.Fault
