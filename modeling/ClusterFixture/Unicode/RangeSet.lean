/-
Sets of code points as lists of ranges.

The operations take ranges in any order and give them in ascending order, apart from one another.
-/

import ClusterFixture.Unicode.Named

set_option autoImplicit false

namespace ClusterFixture.Unicode

/-! ## Order -/

/-- Joins ranges in ascending order that overlap or touch. -/
def joinRanges : List CodeRange → List CodeRange
  | [] => []
  | r :: rest =>
    match joinRanges rest with
    | [] => [r]
    | next :: others =>
      if next.1 ≤ r.2 + 1 then (r.1, max r.2 next.2) :: others else r :: next :: others

/-- The ranges in ascending order, apart from one another. -/
def tidy (ranges : List CodeRange) : List CodeRange :=
  joinRanges (ranges.mergeSort fun a b => a.1 ≤ b.1)

/-! ## Operations -/

/-- What lies in one of two sets. -/
def union (a b : List CodeRange) : List CodeRange := tidy (a ++ b)

/-- What lies outside a set. -/
def complement (a : List CodeRange) : List CodeRange := complementFrom 0 (tidy a)

/-- What lies in both sets. -/
def intersection (a b : List CodeRange) : List CodeRange :=
  complement (union (complement a) (complement b))

/-- What lies in the first set and not in the second. -/
def difference (a b : List CodeRange) : List CodeRange := intersection a (complement b)

/-- What lies in exactly one of two sets. -/
def symmetricDifference (a b : List CodeRange) : List CodeRange :=
  union (difference a b) (difference b a)

/-! ## Letter case -/

/-- The code points of a run with their images. -/
def CaseRun.pairs (r : CaseRun) : List (Nat × Nat) :=
  (List.range ((r.last - r.first) / r.step + 1)).map fun k =>
    (r.first + k * r.step, r.image + k * r.step)

/-- The code points with a folding of their own, and their foldings. -/
def foldPairs : List (Nat × Nat) := foldRuns.flatMap CaseRun.pairs

/-- A set with everything that differs from a member in letter case only. -/
def caseClosed (a : List CodeRange) : List CodeRange :=
  let images := (foldPairs.filter fun (c, f) => holds a c || holds a f).map (·.2)
  let partners := foldPairs.filter fun (_, f) => images.contains f
  tidy (a ++ images.map (fun f => (f, f)) ++ partners.map fun (c, _) => (c, c))

/-- A set with the other case of its ASCII letters. -/
def caseClosedAscii (a : List CodeRange) : List CodeRange :=
  let others := (List.range 26).flatMap fun k =>
    (if holds a (0x41 + k) then [(0x61 + k, 0x61 + k)] else [])
      ++ (if holds a (0x61 + k) then [(0x41 + k, 0x41 + k)] else [])
  tidy (a ++ others)

end ClusterFixture.Unicode
