/-
Two views of the same cluster: its layout, and the counts that transitions are told from.

A layout is parsed from the rows of the configuration; a count is what a query answers that tests
the same rows by a condition on code letters. `Transition.conditions` are these conditions, and
`queries_eq` ties them to the text of the queries. Row by row a code and what is parsed from it
agree (`Segment.ofRow` keeps them apart from blanks only), so the counts count segments, and the
three transitions are properties of the layout.
-/

import ClusterFixture.Cluster.Layout
import ClusterFixture.Cluster.Transition
import ClusterFixture.Proofs.Resync
import ClusterFixture.Sql.Condition
import Mathlib.Data.List.Forall2

set_option autoImplicit false

namespace ClusterFixture.Cluster

open ClusterFixture.Sql (Row Condition)

/-! ## Codes -/

/-- The code of a mode. -/
def SegmentMode.code : SegmentMode → String
  | .synchronized => "s"
  | .resynchronizing => "r"
  | .changeTracking => "c"
  | .notSynchronized => "n"
  | .other code => code

theorem SegmentMode.code_ofCode (code : String) :
    (SegmentMode.ofCode code).code = Text.trim code := by
  unfold SegmentMode.ofCode
  split
  case h_5 => rfl
  all_goals
    rename_i hcode
    rw [hcode]
    rfl

/-- A code denotes one of the known modes exactly when it is the code of that mode. -/
theorem SegmentMode.ofCode_eq_iff (code : String) {mode : SegmentMode}
    (hknown : ∀ c, mode ≠ .other c) :
    SegmentMode.ofCode code = mode ↔ Text.trim code = mode.code := by
  constructor
  · intro h
    rw [← h, SegmentMode.code_ofCode]
  · intro h
    unfold SegmentMode.ofCode
    rw [h]
    cases mode with
    | other c => exact absurd rfl (hknown c)
    | synchronized => rfl
    | resynchronizing => rfl
    | changeTracking => rfl
    | notSynchronized => rfl

/-- The code of a status. -/
def SegmentStatus.code : SegmentStatus → String
  | .up => "u"
  | .down => "d"

theorem SegmentStatus.ofCode_eq_ok_iff (code : String) (status : SegmentStatus) :
    SegmentStatus.ofCode code = .ok status ↔ Text.trim code = status.code := by
  constructor
  · intro h
    unfold SegmentStatus.ofCode at h
    split at h
    · cases h
      assumption
    · cases h
      assumption
    · cases h
  · intro h
    unfold SegmentStatus.ofCode
    rw [h]
    cases status <;> rfl

/-! ## Rows -/

/-- The columns of the configuration query. -/
def configurationColumns : List String :=
  ["dbid", "content", "role", "preferred_role", "mode", "status", "port", "hostname", "address"]

theorem segmentConfiguration_eq :
    Sql.Statement.segmentConfiguration =
      "select " ++ Text.joinWith ", " configurationColumns ++
        " from gp_segment_configuration order by dbid" := by
  decide

/-- The code in a column of a row of the configuration. -/
def codeIn (row : Row) (column : String) : Option String :=
  row.text? (configurationColumns.idxOf column)

/-- The mode and the status of a row have no blanks around them. -/
def TrimmedCodes (row : Row) : Prop :=
  ∀ column ∈ ["mode", "status"], (codeIn row column).map Text.trim = codeIn row column

instance (row : Row) : Decidable (TrimmedCodes row) :=
  inferInstanceAs (Decidable (∀ column ∈ ["mode", "status"],
    (codeIn row column).map Text.trim = codeIn row column))

theorem TrimmedCodes.trim_eq {row : Row} (h : TrimmedCodes row) {column code : String}
    (hcolumn : column ∈ ["mode", "status"]) (hcode : codeIn row column = some code) :
    Text.trim code = code := by
  have hsame := h column hcolumn
  rw [hcode] at hsame
  exact Option.some.inj hsame

theorem text_eq_ok_iff {row : Row} {i : Nat} {text : String} :
    row.text i = .ok text ↔ row.text? i = some text := by
  unfold Row.text Row.text?
  rcases row.columns[i]? with _ | _ | s
  · simp
  · simp
  · simp

/-- An accepted row has a mode and a status, and its segment has those that the two codes denote. -/
theorem Segment.ofRow_codes {row : Row} {s : Segment} (h : Segment.ofRow row = .ok s) :
    (∃ code, codeIn row "mode" = some code ∧ s.mode = .ofCode code) ∧
      ∃ code, codeIn row "status" = some code ∧ SegmentStatus.ofCode code = .ok s.status := by
  unfold Segment.ofRow at h
  obtain ⟨_, _, h⟩ := bind_eq_ok_iff.mp h
  obtain ⟨_, _, h⟩ := bind_eq_ok_iff.mp h
  obtain ⟨_, _, h⟩ := bind_eq_ok_iff.mp h
  obtain ⟨_, _, h⟩ := bind_eq_ok_iff.mp h
  obtain ⟨_, _, h⟩ := bind_eq_ok_iff.mp h
  obtain ⟨_, _, h⟩ := bind_eq_ok_iff.mp h
  obtain ⟨mode, hmode, h⟩ := bind_eq_ok_iff.mp h
  obtain ⟨statusCode, hstatusCode, h⟩ := bind_eq_ok_iff.mp h
  obtain ⟨status, hstatus, h⟩ := bind_eq_ok_iff.mp h
  obtain ⟨_, _, h⟩ := bind_eq_ok_iff.mp h
  obtain ⟨_, _, h⟩ := bind_eq_ok_iff.mp h
  obtain ⟨_, _, h⟩ := bind_eq_ok_iff.mp h
  cases h
  exact ⟨⟨mode, text_eq_ok_iff.mp hmode, rfl⟩, statusCode, text_eq_ok_iff.mp hstatusCode,
    hstatus⟩

/-! ## Conditions on rows, and on segments -/

/-- Comparing the mode code of an accepted row is comparing the mode of its segment. -/
theorem truth_mode {row : Row} {s : Segment} (hrow : Segment.ofRow row = .ok s)
    (htrimmed : TrimmedCodes row) (mode : SegmentMode) (hknown : ∀ c, mode ≠ .other c) :
    (Condition.equals "mode" mode.code).truth configurationColumns row = some (s.mode == mode) ∧
      (Condition.differs "mode" mode.code).truth configurationColumns row =
        some (s.mode != mode) := by
  obtain ⟨⟨code, hcode, hmode⟩, _⟩ := Segment.ofRow_codes hrow
  have hsame : (code == mode.code) = (s.mode == mode) := by
    have hiff := SegmentMode.ofCode_eq_iff code hknown
    rw [htrimmed.trim_eq (by simp) hcode] at hiff
    rw [hmode, Bool.eq_iff_iff, beq_iff_eq, beq_iff_eq, hiff]
  unfold codeIn at hcode
  unfold Condition.truth
  rw [hcode]
  simp only [Option.map_some, bne, hsame, and_self]

/-- Comparing the status code of an accepted row is comparing the status of its segment. -/
theorem truth_status {row : Row} {s : Segment} (hrow : Segment.ofRow row = .ok s)
    (htrimmed : TrimmedCodes row) (status : SegmentStatus) :
    (Condition.differs "status" status.code).truth configurationColumns row =
      some (s.status != status) := by
  obtain ⟨_, code, hcode, hstatus⟩ := Segment.ofRow_codes hrow
  have hsame : (code == status.code) = (s.status == status) := by
    have hiff := SegmentStatus.ofCode_eq_ok_iff code status
    rw [htrimmed.trim_eq (by simp) hcode, hstatus, Except.ok.injEq] at hiff
    rw [Bool.eq_iff_iff, beq_iff_eq, beq_iff_eq, hiff]
  unfold codeIn at hcode
  unfold Condition.truth
  rw [hcode]
  simp only [Option.map_some, bne, hsame]

/-- Where a condition on accepted rows is a test of their segments, its count counts segments. -/
theorem countIn_eq_countP {rows : List Row} {segments : List Segment}
    (hrows : List.Forall₂ (fun row s => Segment.ofRow row = .ok s) rows segments)
    (htrimmed : ∀ row ∈ rows, TrimmedCodes row) (c : Condition) (test : Segment → Bool)
    (htruth : ∀ row s, Segment.ofRow row = .ok s → TrimmedCodes row →
      c.truth configurationColumns row = some (test s)) :
    c.countIn configurationColumns rows = segments.countP test := by
  unfold Condition.countIn
  induction hrows with
  | nil => rfl
  | @cons row s rows segments hrow _ ih =>
    rw [List.countP_cons, List.countP_cons, ih fun r hr => htrimmed r (by simp [hr]),
      htruth row s hrow (htrimmed row (by simp))]
    simp

/-! ## Transitions -/

/-- The conditions that the queries of a transition count by. -/
def Transition.conditions : Transition → List Condition
  | .changeTracking => [.equals "mode" "c"]
  | .inSync => [.either (.differs "mode" "s") (.differs "status" "u")]
  | .resync => [.equals "mode" "r", .differs "mode" "s"]

theorem Transition.queries_eq (t : Transition) :
    t.queries = t.conditions.map (Condition.countQuery "gp_segment_configuration") := by
  cases t <;> decide

/-- What the queries of a transition answer, when they count these rows. -/
def Transition.countsIn (t : Transition) (rows : List Row) : List Int :=
  t.conditions.map fun c => (c.countIn configurationColumns rows : Int)

theorem forall₂_of_mapM_eq_ok {α β : Type} {read : α → Checked β} {as : List α} {bs : List β}
    (h : as.mapM read = .ok bs) : List.Forall₂ (fun a b => read a = .ok b) as bs := by
  induction as generalizing bs with
  | nil =>
    cases h
    exact .nil
  | cons a rest ih =>
    rw [List.mapM_cons] at h
    obtain ⟨b, hb, h⟩ := bind_eq_ok_iff.mp h
    obtain ⟨more, hmore, h⟩ := bind_eq_ok_iff.mp h
    cases h
    exact .cons hb (ih hmore)

/-- The segments of a layout are those of its rows, one by one. -/
theorem Layout.ofRows_eq_ok {rows : List Row} {l : Layout} (h : Layout.ofRows rows = .ok l) :
    List.Forall₂ (fun row s => Segment.ofRow row = .ok s) rows l.segments := by
  unfold Layout.ofRows at h
  obtain ⟨segments, hsegments, h⟩ := bind_eq_ok_iff.mp h
  cases h
  exact forall₂_of_mapM_eq_ok hsegments

section

variable {rows : List Row} {l : Layout}

/-- The counts of change tracking show it exactly when the layout has a segment that tracks
changes. -/
theorem isReached_changeTracking_iff (hrows : Layout.ofRows rows = .ok l)
    (htrimmed : ∀ row ∈ rows, TrimmedCodes row) :
    Transition.isReached .changeTracking (Transition.countsIn .changeTracking rows) = true ↔
      l.changeTracking?.isSome = true := by
  have hcount := countIn_eq_countP (Layout.ofRows_eq_ok hrows) htrimmed
    (.equals "mode" "c") (fun s => s.mode == .changeTracking)
    fun row s hrow hcodes => (truth_mode hrow hcodes .changeTracking (by simp)).1
  simp only [Transition.countsIn, Transition.conditions, List.map_cons, List.map_nil, hcount,
    Transition.isReached, decide_eq_true_eq, Int.natCast_pos, List.countP_pos_iff,
    Layout.changeTracking?, List.find?_isSome]

/-- The count of segments out of sync or down is zero exactly when the layout has none. -/
theorem isReached_inSync_iff (hrows : Layout.ofRows rows = .ok l)
    (htrimmed : ∀ row ∈ rows, TrimmedCodes row) :
    Transition.isReached .inSync (Transition.countsIn .inSync rows) = true ↔
      l.isSynchronized = true ∧ l.isRunning = true := by
  have hcount := countIn_eq_countP (Layout.ofRows_eq_ok hrows) htrimmed
    (.either (.differs "mode" "s") (.differs "status" "u"))
    (fun s => s.mode != .synchronized || s.status != .up) (by
      intro row s hrow hcodes
      have hmode := (truth_mode hrow hcodes .synchronized (by simp)).2
      have hstatus := truth_status hrow hcodes .up
      simp only [SegmentMode.code, SegmentStatus.code] at hmode hstatus
      rw [Condition.truth, hmode, hstatus, Condition.oneOf_some])
  simp only [Transition.countsIn, Transition.conditions, List.map_cons, List.map_nil, hcount,
    Transition.isReached, beq_iff_eq, Int.natCast_eq_zero, List.countP_eq_zero]
  -- No segment fails one of the two tests exactly when all pass both.
  unfold Layout.isSynchronized Layout.isRunning
  rw [List.all_eq_true, List.all_eq_true, ← forall₂_and]
  refine forall₂_congr fun s _ => ?_
  cases s.status <;> simp [bne]

/-- The counts of resynchronization agree exactly when all segments of the layout are synchronized
or catching up. -/
theorem isReached_resync_iff (hrows : Layout.ofRows rows = .ok l)
    (htrimmed : ∀ row ∈ rows, TrimmedCodes row) :
    Transition.isReached .resync (Transition.countsIn .resync rows) = true ↔
      ∀ s ∈ l.segments, s.mode = .synchronized ∨ s.mode = .resynchronizing := by
  have hcatching := countIn_eq_countP (Layout.ofRows_eq_ok hrows) htrimmed
    (.equals "mode" "r") (fun s => s.mode == .resynchronizing)
    fun row s hrow hcodes => (truth_mode hrow hcodes .resynchronizing (by simp)).1
  have hout := countIn_eq_countP (Layout.ofRows_eq_ok hrows) htrimmed
    (.differs "mode" "s") (fun s => s.mode != .synchronized)
    fun row s hrow hcodes => (truth_mode hrow hcodes .synchronized (by simp)).2
  simp only [Transition.countsIn, Transition.conditions, List.map_cons, List.map_nil, hcatching,
    hout, Transition.isReached, beq_iff_eq, Int.natCast_inj]
  rw [countP_eq_countP_iff]
  · refine forall₂_congr fun s _ => ?_
    by_cases hs : s.mode = .synchronized
    · simp [hs]
    · simp [hs]
  · intro s _ hs
    have hmode : s.mode = .resynchronizing := by simpa using hs
    rw [hmode]
    rfl

end

/-- For every accepted configuration whose codes have no blanks around them, the counts that the
queries take of its rows tell the transitions exactly as the layout of these rows does: in sync
means that all segments are synchronized and answer, change tracking that some segment tracks
changes, and resynchronization that all segments are synchronized or catching up. So a cluster in
sync counts as resynchronizing as well, and change tracking excludes both. -/
theorem transitions_agree_with_layout {rows : List Row} {l : Layout}
    (hrows : Layout.ofRows rows = .ok l) (htrimmed : ∀ row ∈ rows, TrimmedCodes row) :
    let reached := fun t : Transition => t.isReached (t.countsIn rows)
    Sql.Statement.segmentConfiguration =
        "select " ++ Text.joinWith ", " configurationColumns ++
          " from gp_segment_configuration order by dbid" ∧
      (∀ t : Transition,
        t.queries = t.conditions.map (Condition.countQuery "gp_segment_configuration")) ∧
      (reached .inSync = true ↔ l.isSynchronized = true ∧ l.isRunning = true) ∧
      (reached .changeTracking = true ↔ l.changeTracking?.isSome = true) ∧
      (reached .resync = true ↔
        ∀ s ∈ l.segments, s.mode = .synchronized ∨ s.mode = .resynchronizing) ∧
      (reached .inSync = true → reached .resync = true) ∧
      (reached .changeTracking = true →
        reached .inSync = false ∧ reached .resync = false) := by
  intro reached
  have hinSync : reached .inSync = true ↔ _ := isReached_inSync_iff hrows htrimmed
  have htracking : reached .changeTracking = true ↔ _ :=
    isReached_changeTracking_iff hrows htrimmed
  have hresync : reached .resync = true ↔ _ := isReached_resync_iff hrows htrimmed
  have himp : reached .inSync = true → reached .resync = true := by
    intro h
    rw [hresync]
    intro s hs
    -- A cluster in sync has synchronized segments only.
    have hall := (hinSync.mp h).1
    unfold Layout.isSynchronized at hall
    exact .inl (by simpa using List.all_eq_true.mp hall s hs)
  refine ⟨segmentConfiguration_eq, Transition.queries_eq, hinSync, htracking, hresync, himp, ?_⟩
  intro h
  have hnot : ¬reached .resync = true := by
    intro hr
    have hsome := htracking.mp h
    unfold Layout.changeTracking? at hsome
    obtain ⟨s, hs, hmode⟩ := List.find?_isSome.mp hsome
    -- The segment that tracks changes is in neither of the two other modes.
    have htracks : s.mode = .changeTracking := by simpa using hmode
    rcases hresync.mp hr s hs with hsync | hcatching
    · rw [htracks] at hsync
      cases hsync
    · rw [htracks] at hcatching
      cases hcatching
  constructor
  · rw [Bool.eq_false_iff]
    exact fun hi => hnot (himp hi)
  · rw [Bool.eq_false_iff]
    exact hnot

/-- A cluster of which a mirror is lost: its primary tracks changes, and the mirror is down, in a
mode that has no name. -/
def lostMirrorRows : List Row := [
  .ofTexts ["1", "-1", "p", "p", "s", "u", "5432", "mdw", "mdw"],
  .ofTexts ["2", "0", "p", "p", "c", "u", "40000", "sdw1", "sdw1"],
  .ofTexts ["3", "0", "m", "m", "x", "d", "50000", "sdw2", "sdw2"]]

/-- The layout of these rows. -/
def lostMirror : Layout := ⟨[
  ⟨1, -1, .primary, .primary, .synchronized, .up, 5432, "mdw", "mdw"⟩,
  ⟨2, 0, .primary, .primary, .changeTracking, .up, 40000, "sdw1", "sdw1"⟩,
  ⟨3, 0, .mirror, .mirror, .other "x", .down, 50000, "sdw2", "sdw2"⟩]⟩

theorem transitions_agree_with_layout_lostMirror :
    Layout.ofRows lostMirrorRows = .ok lostMirror ∧
      Transition.isReached .changeTracking (Transition.countsIn .changeTracking lostMirrorRows) =
        true ∧
      Transition.isReached .resync (Transition.countsIn .resync lostMirrorRows) = false := by
  have hrows : Layout.ofRows lostMirrorRows = .ok lostMirror := by rfl
  have htrimmed : ∀ row ∈ lostMirrorRows, TrimmedCodes row := by decide
  obtain ⟨_, _, _, htracking, _, _, hexcludes⟩ := transitions_agree_with_layout hrows htrimmed
  have hreached := htracking.mpr (by decide)
  exact ⟨hrows, hreached, (hexcludes hreached).2⟩

end ClusterFixture.Cluster
