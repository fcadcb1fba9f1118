/-
Which faults are alike.

Likeness looks at kinds and shapes only. So two faults are alike exactly when they are the same once
all wording is left out, and whatever does not look at the wording treats them the same.
-/

import ClusterFixture.Proofs.FaultMembers
import Mathlib.Data.List.Forall2

set_option autoImplicit false

namespace ClusterFixture.Fault

/-! ## Faults without their wording -/

mutual

/-- A fault with empty texts for its descriptions and details. -/
def unworded : Fault → Fault
  | .plain k _ => .plain k ""
  | .detailed k _ _ => .detailed k "" ""
  | .several faults => .several (unwordedAll faults)

/-- The members of a list without their wording. -/
def unwordedAll : List Fault → List Fault
  | [] => []
  | fault :: rest => fault.unworded :: unwordedAll rest

end

@[simp] theorem unworded_several (faults : List Fault) :
    (several faults).unworded = .several (faults.map unworded) := by
  rw [unworded]
  congr 1
  induction faults with
  | nil => rfl
  | cons fault rest ih => rw [unwordedAll, ih, List.map_cons]

@[simp] theorem kind_unworded (f : Fault) : f.unworded.kind = f.kind := by
  induction f with
  | plain k description => rfl
  | detailed k description detail => rfl
  | several faults ih =>
    rw [unworded_several]
    cases faults with
    | nil => rfl
    | cons first rest => exact ih first List.mem_cons_self

@[simp] theorem kinds_unworded (f : Fault) : f.unworded.kinds = f.kinds := by
  induction f with
  | plain k description => rfl
  | detailed k description detail => rfl
  | several faults ih =>
    rw [unworded_several, kinds_several, kinds_several, List.flatMap_map]
    exact List.flatMap_congr ih

theorem isSome_detail?_several_iff (faults : List Fault) :
    (several faults).detail?.isSome = true ↔ ∃ fault ∈ faults, fault.detail?.isSome = true := by
  rw [detail?]
  induction faults with
  | nil => simp [detailOf?]
  | cons fault rest ih => simp [detailOf?, ih]

/-- Without its wording a fault still has a detail where it had one. -/
theorem isSome_detail?_unworded (f : Fault) :
    f.unworded.detail?.isSome = f.detail?.isSome := by
  induction f with
  | plain k description => rfl
  | detailed k description detail => rfl
  | several faults ih =>
    rw [Bool.eq_iff_iff, unworded_several, isSome_detail?_several_iff, isSome_detail?_several_iff]
    simp only [List.mem_map, exists_exists_and_eq_and]
    exact exists_congr fun fault => and_congr_right fun hmem => by rw [ih fault hmem]

/-! ## Likeness -/

/-- Collections are alike exactly when their members are, one by one. -/
theorem alike_several_iff (faults others : List Fault) :
    (several faults).alike (several others) = true ↔
      List.Forall₂ (fun f g : Fault => f.alike g = true) faults others := by
  rw [alike]
  induction faults generalizing others with
  | nil => cases others <;> simp [alikeAll]
  | cons fault rest ih =>
    cases others with
    | nil => simp [alikeAll]
    | cons other others => rw [alikeAll, Bool.and_eq_true, ih, List.forall₂_cons]

/-- Faults are alike exactly when only their wording tells them apart. -/
theorem alike_iff_unworded_eq (f g : Fault) : f.alike g = true ↔ f.unworded = g.unworded := by
  induction f generalizing g with
  | plain k description => cases g <;> simp [alike, unworded]
  | detailed k description detail => cases g <;> simp [alike, unworded]
  | several faults ih =>
    cases g with
    | plain k description => simp [alike, unworded]
    | detailed k description detail => simp [alike, unworded]
    | several others =>
      rw [alike_several_iff, unworded_several, unworded_several, several.injEq]
      -- the hypothesis on the members turns one list after the other into an equation
      induction faults generalizing others with
      | nil => cases others <;> simp
      | cons fault rest ihrest =>
        cases others with
        | nil => simp
        | cons other others =>
          rw [List.forall₂_cons, List.map_cons, List.map_cons, List.cons.injEq,
            ih fault List.mem_cons_self, ihrest fun g hg => ih g (List.mem_cons_of_mem _ hg)]

/-- Likeness leaves out the wording and nothing else, so it is an equivalence, and collections are
alike exactly when their members are, one by one. Faults that are alike have the same kind and the
same kinds, and both of them have a detail or neither has. -/
theorem alike_congruence :
    Equivalence (fun f g : Fault => f.alike g = true) ∧
      (∀ f g : Fault, f.alike g = true ↔ f.unworded = g.unworded) ∧
      (∀ faults others, (several faults).alike (several others) = true ↔
        List.Forall₂ (fun f g : Fault => f.alike g = true) faults others) ∧
      (∀ f g : Fault, f.alike g = true →
        f.kind = g.kind ∧ f.kinds = g.kinds ∧ f.detail?.isSome = g.detail?.isSome) := by
  refine ⟨⟨fun f => ?_, fun {f g} h => ?_, fun {f g h} hfg hgh => ?_⟩, alike_iff_unworded_eq,
    alike_several_iff, fun f g h => ?_⟩
  · exact (alike_iff_unworded_eq f f).mpr rfl
  · rw [alike_iff_unworded_eq] at h ⊢
    exact h.symm
  · rw [alike_iff_unworded_eq] at hfg hgh ⊢
    exact hfg.trans hgh
  · rw [alike_iff_unworded_eq] at h
    refine ⟨?_, ?_, ?_⟩
    · rw [← f.kind_unworded, h, kind_unworded]
    · rw [← f.kinds_unworded, h, kinds_unworded]
    · rw [← f.isSome_detail?_unworded, h, isSome_detail?_unworded]

/-- What two checks reported, one of which had nothing to say. -/
def shortReport : Fault :=
  .several [.several [], .several [.plain .ioError "disk full", .detailed .timeout "Timed out" "1 s"]]

/-- The same in other words. -/
def longReport : Fault :=
  .several [.several [], .several [.plain .ioError "No space left on device",
    .detailed .timeout "Timed out waiting for the segments" "80 attempts"]]

/-- Reports in other words are alike, with the same kinds and a detail each. -/
theorem alike_congruence_reports :
    shortReport.alike longReport = true ∧ longReport.alike shortReport = true ∧
      shortReport.kinds = longReport.kinds ∧ longReport.detail?.isSome = true := by
  have halike : shortReport.alike longReport = true := by
    decide
  obtain ⟨hequivalence, -, -, hsame⟩ := alike_congruence
  obtain ⟨-, hkinds, hdetail⟩ := hsame shortReport longReport halike
  exact ⟨halike, hequivalence.symm halike, hkinds, hdetail.symm.trans rfl⟩

end ClusterFixture.Fault
