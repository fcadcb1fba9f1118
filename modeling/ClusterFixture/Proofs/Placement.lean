/-
What the check on the data of segments can report.

The rows of a table lie on primary segments. The check asks for their number on each segment and
fails at the first number that is zero. So it reports exactly the empty segments that the answer
lists, and what an answer lists is the server's affair: a query that groups rows has a group only
where there is a row. Such an answer lists no empty segment, and the check accepts every placement.
-/

import ClusterFixture.Operation.Checks
import ClusterFixture.Proofs.Comparison
import ClusterFixture.Proofs.Counting
import Mathlib.Data.List.Dedup

set_option autoImplicit false

namespace ClusterFixture

open ClusterFixture.Number (decimal)

/-! ## Placements -/

/-- Where the rows of a table lie. -/
structure Placement where
  /-- The content numbers of the primary segments. -/
  primaries : List Nat
  /-- For each row, the segment that holds it. -/
  rows : List Nat
  onPrimaries : ∀ s ∈ rows, s ∈ primaries
  /-- A count fits into the integers of the server. -/
  few : rows.length < Number.twoTo 63

namespace Placement

/-- The number of rows that a segment holds. -/
def held (p : Placement) (segment : Nat) : Nat := p.rows.count segment

/-- Some primary segment holds no row. -/
def HasEmpty (p : Placement) : Prop := ∃ s ∈ p.primaries, p.held s = 0

/-- What an answer says of a segment that it lists. -/
def countRow (p : Placement) (segment : Nat) : Sql.Row :=
  .ofTexts [decimal segment, decimal (p.held segment)]

/-- The segments that an answer lists are the groups of the rows by segment, in any order. -/
def Grouped (p : Placement) (listed : List Nat) : Prop := listed.Perm p.rows.dedup

theorem held_lt (p : Placement) (segment : Nat) : p.held segment < Number.twoTo 63 :=
  Nat.lt_of_le_of_lt List.count_le_length p.few

theorem integer_countRow (p : Placement) (segment : Nat) :
    (p.countRow segment).integer 1 = .ok (p.held segment : Int) :=
  Sql.Row.integer_of_text rfl (p.held_lt segment)

/-- No group is empty. -/
theorem Grouped.held_ne_zero {p : Placement} {listed : List Nat} (h : p.Grouped listed) {s : Nat}
    (hs : s ∈ listed) : p.held s ≠ 0 := by
  have hrow : s ∈ p.rows := List.mem_dedup.mp (h.mem_iff.mp hs)
  have hpos : 0 < p.held s := List.count_pos_iff.mpr hrow
  omega

end Placement

namespace Op

variable {σ : Type}

/-! ## The check -/

/-- The fault for a segment without rows. -/
def absent (segment : Nat) : Fault :=
  .detailed .dataMismatch "Data not present in segment" (decimal segment)

/-- The verdict on an answer that lists these segments: the first empty one is reported. -/
def placementVerdict (p : Placement) (listed : List Nat) : Checked Unit :=
  match listed.find? fun s => p.held s == 0 with
  | none => .ok ()
  | some s => .error (absent s)

theorem checkSegmentCounts_map_countRow (p : Placement) (listed : List Nat) :
    checkSegmentCounts (listed.map p.countRow) = placementVerdict p listed := by
  unfold placementVerdict
  induction listed with
  | nil => rfl
  | cons s rest ih =>
    have hcount := p.integer_countRow s
    rw [List.map_cons, checkSegmentCounts, hcount, List.find?_cons]
    by_cases hempty : p.held s = 0
    · -- The check stops here, and the rest of the listing does not matter.
      simp only [hempty]
      rfl
    · have hne : ((p.held s : Int) == 0) = false := by simpa using hempty
      have hskip : (p.held s == 0) = false := by simpa using hempty
      simp only [bind, Except.bind, hne, hskip, Bool.false_eq_true, if_false]
      exact ih

theorem placementVerdict_eq_ok {p : Placement} {listed : List Nat}
    (h : ∀ s ∈ listed, p.held s ≠ 0) : placementVerdict p listed = .ok () := by
  have hnone : listed.find? (fun s => p.held s == 0) = none := by
    rw [List.find?_eq_none]
    intro s hs
    simpa using h s hs
  simp only [placementVerdict, hnone]

/-- A mismatch is reported exactly when the listing has an empty segment. -/
theorem placementVerdict_mismatch_iff (p : Placement) (listed : List Nat) :
    (∃ f, placementVerdict p listed = .error f ∧ f.kind = .dataMismatch) ↔
      ∃ s ∈ listed, p.held s = 0 := by
  unfold placementVerdict
  rcases hfind : listed.find? fun s => p.held s == 0 with _ | s
  · rw [List.find?_eq_none] at hfind
    constructor
    · rintro ⟨f, hf, _⟩
      cases hf
    · rintro ⟨s, hs, hempty⟩
      exact absurd (by simpa using hempty) (hfind s hs)
  · have hempty : p.held s = 0 := by simpa using List.find?_some hfind
    constructor
    · intro _
      exact ⟨s, List.mem_of_find?_eq_some hfind, hempty⟩
    · intro _
      exact ⟨absent s, rfl, rfl⟩

/-- What a server answers when it is asked for the rows on each segment. -/
def placementAnswer (site : Site σ) (w : World σ) (table database : String) :
    Checked (List Sql.Row) :=
  ((site.services.query { database } (Sql.Statement.segmentRowCounts table)).run
    (w.server, w.files)).1

/-- The check judges the answer of its one query. -/
theorem runAt_checkDataOnSegments {site : Site σ} {w : World σ} {table database : String}
    {rows : List Sql.Row} (hanswer : placementAnswer site w table database = .ok rows) :
    (runAt (checkDataOnSegments table database) site w).1 = checkSegmentCounts rows := by
  unfold placementAnswer at hanswer
  rw [checkDataOnSegments, query, runAt_bind, runAt_queryAt, hanswer]
  simp only [runAt_check]

/-- The check fails with a mismatch exactly when the answer lists an empty segment. Over an answer
that lists the primary segments it tells whether one of them is empty. The groups of a grouping
query are never empty, so over a server that groups the rows the check accepts every placement, and
tells whether a primary segment is empty exactly when none is. -/
theorem checkDataOnSegments_mismatch_iff {p : Placement} {listed : List Nat} {site : Site σ}
    {w : World σ} {table database : String}
    (hanswer : placementAnswer site w table database = .ok (listed.map p.countRow)) :
    let result := (runAt (checkDataOnSegments table database) site w).1
    let mismatch := ∃ f, result = .error f ∧ f.kind = .dataMismatch
    (mismatch ↔ ∃ s ∈ listed, p.held s = 0) ∧
      ((∀ s, s ∈ listed ↔ s ∈ p.primaries) → (mismatch ↔ p.HasEmpty)) ∧
      (p.Grouped listed → result = .ok () ∧ ((mismatch ↔ p.HasEmpty) ↔ ¬p.HasEmpty)) := by
  intro result mismatch
  have hresult : result = placementVerdict p listed := by
    simp only [result]
    rw [runAt_checkDataOnSegments hanswer, checkSegmentCounts_map_countRow]
  have hmismatch : mismatch ↔ ∃ s ∈ listed, p.held s = 0 := by
    simp only [mismatch, hresult]
    exact placementVerdict_mismatch_iff p listed
  refine ⟨hmismatch, ?_, fun hgrouped => ?_⟩
  · intro hall
    simp only [hmismatch, Placement.HasEmpty, hall]
  have hok : result = .ok () := by
    rw [hresult, placementVerdict_eq_ok fun s hs => hgrouped.held_ne_zero hs]
  have hnone : ¬mismatch := by
    rw [hmismatch]
    rintro ⟨s, hs, hempty⟩
    exact hgrouped.held_ne_zero hs hempty
  refine ⟨hok, ?_⟩
  -- Nothing is reported, so the two agree where there is nothing to report.
  simp only [hnone, false_iff]

/-- Three rows on the first of two segments. -/
def oneSided : Placement where
  primaries := [0, 1]
  rows := [0, 0, 0]
  onPrimaries := by decide
  few := by decide

/-- A table without rows on two segments. -/
def rowless : Placement where
  primaries := [0, 1]
  rows := []
  onPrimaries := by decide
  few := by decide

/-- A server that answers every query with the numbers of rows on these segments. -/
def counting (p : Placement) (listed : List Nat) : Services Unit :=
  { refusing with query := fun _ _ => fun state => (.ok (listed.map p.countRow), state) }

/-- The grouped rows of the one-sided table list the first segment only, and the check accepts. -/
theorem checkDataOnSegments_oneSided :
    placementAnswer (dataSite (counting oneSided [0])) staleWorld "sales" "db" =
        .ok ([0].map oneSided.countRow) ∧
      oneSided.Grouped [0] ∧ oneSided.HasEmpty ∧
      (runAt (checkDataOnSegments "sales" "db") (dataSite (counting oneSided [0]))
        staleWorld).1 = .ok () := by
  have hgrouped : oneSided.Grouped [0] := .refl _
  have hempty : oneSided.HasEmpty := ⟨1, by decide, by decide⟩
  exact ⟨rfl, hgrouped, hempty, ((checkDataOnSegments_mismatch_iff rfl).2.2 hgrouped).1⟩

/-- No segment holds a row of a table without rows. The grouped rows list no segment at all, and the
check accepts. -/
theorem checkDataOnSegments_rowless :
    rowless.HasEmpty ∧ rowless.Grouped [] ∧
      placementAnswer (dataSite (counting rowless [])) staleWorld "sales" "db" =
        .ok (([] : List Nat).map rowless.countRow) ∧
      (runAt (checkDataOnSegments "sales" "db") (dataSite (counting rowless []))
        staleWorld).1 = .ok () := by
  have hempty : rowless.HasEmpty := ⟨0, by decide, by decide⟩
  refine ⟨hempty, .refl _, rfl, ?_⟩
  rw [runAt_checkDataOnSegments rfl]
  rfl

end Op

end ClusterFixture
