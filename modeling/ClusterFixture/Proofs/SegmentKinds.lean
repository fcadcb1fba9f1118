/-
The kinds of segments, and how many there are of each.

Content and role make a segment one of four kinds, or none when its content is below that of the
master. The layout counts primaries and mirrors one by one, but of masters and of their standbys it
only finds the first. So its counts are those of the kinds as long as there is at most one master
and at most one standby; what else the counts obey follows from their sum over the kinds.
-/

import ClusterFixture.Cluster.Layout

set_option autoImplicit false

namespace ClusterFixture.Cluster

/-- What a segment is to its cluster. -/
inductive SegmentKind where
  | master
  | standby
  | primary
  | mirror
  deriving DecidableEq, Repr

/-! ## Kinds -/

namespace Segment

/-- The kind that content and role make of a segment. -/
def kind? (s : Segment) : Option SegmentKind :=
  if s.content < -1 then none
  else if s.content = -1 then
    match s.role with
    | .primary => some .master
    | .mirror => some .standby
  else
    match s.role with
    | .primary => some .primary
    | .mirror => some .mirror

/-- Whether a segment is taken for one of a kind. -/
def isTakenFor (s : Segment) : SegmentKind → Bool
  | .master => s.isMaster
  | .standby => s.isStandby
  | .primary => s.isPrimary
  | .mirror => s.isMirror

/-- A segment is taken for what it is. -/
theorem isTakenFor_eq (s : Segment) (k : SegmentKind) :
    s.isTakenFor k = decide (s.kind? = some k) := by
  have htaken : ∀ k, s.isTakenFor k =
      match k with
      | .master => decide (s.content = -1) && decide (s.role = .primary)
      | .standby => decide (s.content = -1) && decide (s.role = .mirror)
      | .primary => decide (0 ≤ s.content) && decide (s.role = .primary)
      | .mirror => decide (0 ≤ s.content) && decide (s.role = .mirror) := by
    intro k
    cases k <;> rfl
  rw [htaken, kind?]
  rcases Int.lt_trichotomy s.content (-1) with hbelow | hmaster | habove
  · have hne : s.content ≠ -1 := by omega
    have hneg : ¬0 ≤ s.content := by omega
    cases k <;> simp [hbelow, hne, hneg]
  · cases k <;> cases s.role <;> simp [hmaster]
  · have hserves : 0 ≤ s.content := by omega
    have hbelow : ¬s.content < -1 := by omega
    have hne : s.content ≠ -1 := by omega
    cases k <;> cases s.role <;> simp [hserves, hbelow, hne]

/-- The kinds cover the segments from the content of the master on. -/
theorem isSome_kind? (s : Segment) : s.kind?.isSome = decide (-1 ≤ s.content) := by
  by_cases hbelow : s.content < -1
  · have hlow : ¬-1 ≤ s.content := by omega
    simp [kind?, hbelow, hlow]
  · have hlow : -1 ≤ s.content := by omega
    simp only [kind?, hbelow, if_false, hlow, decide_true]
    split <;> cases s.role <;> rfl

end Segment

/-! ## Counting -/

namespace Layout

/-- How many segments are of a kind. -/
def number (l : Layout) (k : SegmentKind) : Nat := l.segments.countP fun s => s.kind? = some k

/-- The count of the chosen kinds. -/
def countOf (l : Layout) (chosen : SegmentKind → Bool) : Nat :=
  l.count (chosen .primary) (chosen .mirror) (chosen .master) (chosen .standby)

theorem countP_isTakenFor (l : Layout) (k : SegmentKind) :
    (l.segments.countP fun s => s.isTakenFor k) = l.number k := by
  simp only [number, Segment.isTakenFor_eq]

/-- A first one is found of what there is at least one of. -/
theorem isSome_find?_isTakenFor (l : Layout) (k : SegmentKind) :
    (l.segments.find? fun s => s.isTakenFor k).isSome = decide (0 < l.number k) := by
  rw [← countP_isTakenFor, Bool.eq_iff_iff, List.find?_isSome, decide_eq_true_iff,
    List.countP_pos_iff]

/-- In general the count is a sum over the kinds, to which masters and standbys add one at most. -/
theorem countOf_eq (l : Layout) (chosen : SegmentKind → Bool) :
    l.countOf chosen =
      (if chosen .primary then l.number .primary else 0)
        + (if chosen .mirror then l.number .mirror else 0)
        + (if chosen .master then min 1 (l.number .master) else 0)
        + (if chosen .standby then min 1 (l.number .standby) else 0) := by
  have hprimaries : l.primaries.length = l.number .primary := by
    rw [← countP_isTakenFor, List.countP_eq_length_filter]
    rfl
  have hmirrors : l.mirrors.length = l.number .mirror := by
    rw [← countP_isTakenFor, List.countP_eq_length_filter]
    rfl
  have hmaster : l.master?.isSome = decide (0 < l.number .master) :=
    isSome_find?_isTakenFor l .master
  have hstandby : l.standby?.isSome = decide (0 < l.number .standby) :=
    isSome_find?_isTakenFor l .standby
  have hfirst : ∀ (flag : Bool) (n : Nat),
      (if flag && decide (0 < n) then 1 else 0) = if flag then min 1 n else 0 := by
    intro flag n
    cases flag
    · rfl
    · simp only [Bool.true_and, decide_eq_true_eq, if_true]
      split <;> omega
  rw [countOf, count, hprimaries, hmirrors, hmaster, hstandby, hfirst, hfirst]

/-- The segments of the chosen kinds are those of each kind together, since none is of two kinds. -/
theorem countP_chosen (l : Layout) (chosen : SegmentKind → Bool) :
    (l.segments.countP fun s => s.kind?.any chosen) =
      (if chosen .primary then l.number .primary else 0)
        + (if chosen .mirror then l.number .mirror else 0)
        + (if chosen .master then l.number .master else 0)
        + (if chosen .standby then l.number .standby else 0) := by
  unfold number
  induction l.segments with
  | nil => simp
  | cons s rest ih =>
    simp only [List.countP_cons, ih]
    rcases s.kind? with _ | k
    · simp
    -- The segment adds one on both sides where its kind is chosen.
    · cases hk : chosen k <;> cases k <;> simp [hk] <;> omega

theorem countOf_perm {l l' : Layout} (h : l.segments.Perm l'.segments)
    (chosen : SegmentKind → Bool) : l.countOf chosen = l'.countOf chosen := by
  have hnumber : ∀ k, l.number k = l'.number k := fun k => h.countP_eq _
  simp only [countOf_eq, hnumber]

/-- Choices that share no kind add up. -/
theorem countOf_or (l : Layout) {a b : SegmentKind → Bool} (h : ∀ k, a k = true → b k = false) :
    l.countOf (fun k => a k || b k) = l.countOf a + l.countOf b := by
  have hsum : ∀ k n,
      (if a k || b k then n else 0) = (if a k then n else 0) + if b k then n else 0 := by
    intro k n
    cases ha : a k
    · simp
    · simp [h k ha]
  simp only [countOf_eq, hsum]
  omega

/-- What a segment is taken for is its kind, so it is one at most, and some kind exactly from the
content of the master on. With at most one master and at most one standby among the segments, in any
order, the count of chosen kinds is the number of segments whose kind is chosen. Choices that share
no kind add up, the order of the segments does not matter, and the count of all kinds is the number
of segments from the content of the master on. -/
theorem count_by_kinds {l : Layout}
    (hmaster : (l.segments.countP fun s => s.content = -1 ∧ s.role = .primary) ≤ 1)
    (hstandby : (l.segments.countP fun s => s.content = -1 ∧ s.role = .mirror) ≤ 1) :
    (∀ (s : Segment) (k : SegmentKind), s.isTakenFor k = true ↔ s.kind? = some k) ∧
      (∀ (s : Segment) (k k' : SegmentKind),
        s.isTakenFor k = true → s.isTakenFor k' = true → k = k') ∧
      (∀ s : Segment, (∃ k, s.isTakenFor k = true) ↔ -1 ≤ s.content) ∧
      (∀ chosen, l.countOf chosen = l.segments.countP fun s => s.kind?.any chosen) ∧
      (∀ a b : SegmentKind → Bool, (∀ k, a k = true → b k = false) →
        l.countOf (fun k => a k || b k) = l.countOf a + l.countOf b) ∧
      (∀ l' : Layout, l'.segments.Perm l.segments →
        ∀ chosen, l'.countOf chosen = l.countOf chosen) ∧
      l.count true true true true = l.segments.countP fun s => -1 ≤ s.content := by
  have htaken : ∀ (s : Segment) (k : SegmentKind), s.isTakenFor k = true ↔ s.kind? = some k := by
    intro s k
    rw [Segment.isTakenFor_eq, decide_eq_true_iff]
  have hone : l.number .master ≤ 1 ∧ l.number .standby ≤ 1 := by
    simp only [← countP_isTakenFor]
    simp only [Bool.decide_and] at hmaster hstandby
    exact ⟨hmaster, hstandby⟩
  have hcount : ∀ chosen, l.countOf chosen = l.segments.countP fun s => s.kind?.any chosen := by
    intro chosen
    rw [countOf_eq, countP_chosen, Nat.min_eq_right hone.1, Nat.min_eq_right hone.2]
  refine ⟨htaken, ?_, ?_, hcount, fun a b h => l.countOf_or h, fun l' h => countOf_perm h, ?_⟩
  · intro s k k' hk hk'
    exact Option.some.inj (((htaken s k).mp hk).symm.trans ((htaken s k').mp hk'))
  · intro s
    simp only [htaken, ← Option.isSome_iff_exists, Segment.isSome_kind?, decide_eq_true_iff]
  · refine (hcount fun _ => true).trans (congrArg (List.countP · l.segments) (funext fun s => ?_))
    rw [← Segment.isSome_kind?]
    cases s.kind? <;> rfl

/-- A cluster in no particular order, with a segment that has no content. -/
def fullCluster : Layout := ⟨[
  ⟨2, 0, .primary, .primary, .synchronized, .up, 40000, "sdw1", "sdw1-1"⟩,
  ⟨6, -1, .mirror, .mirror, .synchronized, .up, 5432, "smdw", "smdw"⟩,
  ⟨4, 0, .mirror, .mirror, .synchronized, .up, 50000, "sdw2", "sdw2-1"⟩,
  ⟨7, -2, .primary, .primary, .synchronized, .down, 40002, "sdw3", "sdw3-1"⟩,
  ⟨1, -1, .primary, .primary, .synchronized, .up, 5432, "mdw", "mdw"⟩,
  ⟨3, 1, .primary, .primary, .synchronized, .up, 40001, "sdw2", "sdw2-1"⟩]⟩

/-- It has five segments of a kind; the master and the primaries among them are three. -/
theorem count_by_kinds_fullCluster :
    (fullCluster.segments.countP fun s => s.content = -1 ∧ s.role = .primary) ≤ 1 ∧
      (fullCluster.segments.countP fun s => s.content = -1 ∧ s.role = .mirror) ≤ 1 ∧
      fullCluster.count true true true true = 5 ∧
      fullCluster.count true false true false = 3 := by
  have hmaster :
      (fullCluster.segments.countP fun s => s.content = -1 ∧ s.role = .primary) ≤ 1 := by decide
  have hstandby :
      (fullCluster.segments.countP fun s => s.content = -1 ∧ s.role = .mirror) ≤ 1 := by decide
  obtain ⟨-, -, -, hcount, -, -, hall⟩ := count_by_kinds hmaster hstandby
  refine ⟨hmaster, hstandby, hall.trans (by decide), ?_⟩
  exact (hcount fun k => k = .primary ∨ k = .master).trans (by decide)

end Layout

end ClusterFixture.Cluster
