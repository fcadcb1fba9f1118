/-
A statement on every primary.

The primaries get the statement one after the other, each from the state that the one before left.
The whole configuration is read before the first of them is addressed, so a row that cannot be read
keeps the statement from all of them; a segment that refuses it keeps it from those behind.
-/

import ClusterFixture.Proofs.Comparison
import ClusterFixture.Proofs.SegmentRows

set_option autoImplicit false

namespace ClusterFixture

open ClusterFixture.Cluster (IsRowOf Segment Unreadable)
open ClusterFixture.Sql (Target)

variable {σ : Type}

/-! ## Targets -/

/-- Where the primaries among segments are addressed: in the database, at their own servers, with
the configured role, and past the master. -/
def primaryTargets (database : String) (segments : List Segment) : List Target :=
  (segments.filter fun s => 0 ≤ s.content ∧ s.role = .primary).map fun s =>
    { database, host := some s.hostname, port := some s.port, user := none, utility := true }

namespace Op

/-- The calls that address targets with a statement. -/
def addressing (statement : String) (targets : List Target) : List Call :=
  targets.map fun t => .execute t statement

/-- What a server makes of a statement at a target, in a state. -/
def executedAt (site : Site σ) (statement : String) (t : Target) (state : σ × FileTree) :
    Checked Unit × (σ × FileTree) :=
  (site.services.execute t statement).run state

/-- A statement succeeds at targets, at each in the state that the target before left. -/
inductive SucceedsAt (site : Site σ) (statement : String) :
    σ × FileTree → List Target → σ × FileTree → Prop
  | done (state : σ × FileTree) : SucceedsAt site statement state [] state
  | next {state state' state'' : σ × FileTree} {t : Target} {rest : List Target} :
    executedAt site statement t state = (.ok (), state') →
      SucceedsAt site statement state' rest state'' →
      SucceedsAt site statement state (t :: rest) state''

/-! ## One target after the other -/

/-- At each target. -/
def executeAll (statement : String) (targets : List Target) : Op σ Unit :=
  targets.forM fun t => executeAt t statement

theorem runAt_executeAll_cons_ok {site : Site σ} {statement : String} {t : Target} {w : World σ}
    {state : σ × FileTree}
    (h : executedAt site statement t (w.server, w.files) = (.ok (), state)) (rest : List Target) :
    ∃ w', runAt (executeAll statement (t :: rest)) site w =
        runAt (executeAll statement rest) site w' ∧
      Went w [.execute t statement] state w' := by
  obtain ⟨w', hrun, hwent⟩ := went_executeAt t statement site w
  rw [executedAt] at h
  rw [h] at hrun hwent
  refine ⟨w', ?_, hwent⟩
  rw [executeAll, runAt_forM_cons, hrun]
  rfl

theorem runAt_executeAll_cons_error {site : Site σ} {statement : String} {t : Target} {w : World σ}
    {f : Fault} {state : σ × FileTree}
    (h : executedAt site statement t (w.server, w.files) = (.error f, state))
    (rest : List Target) :
    ∃ w', runAt (executeAll statement (t :: rest)) site w = (.error f, w') ∧
      Went w [.execute t statement] state w' := by
  obtain ⟨w', hrun, hwent⟩ := went_executeAt t statement site w
  rw [executedAt] at h
  rw [h] at hrun hwent
  exact ⟨w', by rw [executeAll, runAt_forM_cons, hrun], hwent⟩

/-- Targets at which the statement succeeds are addressed, and then those behind them. -/
theorem runAt_executeAll_append {site : Site σ} {statement : String} {first : List Target}
    {w : World σ} {state : σ × FileTree}
    (h : SucceedsAt site statement (w.server, w.files) first state) (rest : List Target) :
    ∃ w', runAt (executeAll statement (first ++ rest)) site w =
        runAt (executeAll statement rest) site w' ∧
      Went w (addressing statement first) state w' := by
  generalize hstart : (w.server, w.files) = start at h
  -- By induction on the successes: each leaves the state that the next one begins in.
  induction h generalizing w with
  | done =>
    subst hstart
    exact ⟨w, rfl, .refl w⟩
  | next hone _ ih =>
    subst hstart
    obtain ⟨w', hrun, hwent⟩ := runAt_executeAll_cons_ok hone (_ ++ rest)
    obtain ⟨w'', hrun', hwent'⟩ := ih (w := w') (by rw [hwent.server, hwent.files])
    exact ⟨w'', hrun.trans hrun', hwent.trans hwent'⟩

/-- Where the statement succeeds everywhere every target is addressed. -/
theorem runAt_executeAll_ok {site : Site σ} {statement : String} {targets : List Target}
    {w : World σ} {state : σ × FileTree}
    (h : SucceedsAt site statement (w.server, w.files) targets state) :
    ∃ w', runAt (executeAll statement targets) site w = (.ok (), w') ∧
      Went w (addressing statement targets) state w' := by
  obtain ⟨w', hrun, hwent⟩ := runAt_executeAll_append h []
  rw [List.append_nil] at hrun
  exact ⟨w', hrun, hwent⟩

/-- A target that fails is the last one that is addressed. -/
theorem runAt_executeAll_error {site : Site σ} {statement : String} {first : List Target}
    {t : Target} {w : World σ} {f : Fault} {state state' : σ × FileTree}
    (h : SucceedsAt site statement (w.server, w.files) first state)
    (hfails : executedAt site statement t state = (.error f, state')) (rest : List Target) :
    ∃ w', runAt (executeAll statement (first ++ t :: rest)) site w = (.error f, w') ∧
      Went w (addressing statement (first ++ [t])) state' w' := by
  obtain ⟨w', hrun, hwent⟩ := runAt_executeAll_append h (t :: rest)
  have hstate : executedAt site statement t (w'.server, w'.files) = (.error f, state') := by
    rw [hwent.server, hwent.files]
    exact hfails
  obtain ⟨w'', hrun', hwent'⟩ := runAt_executeAll_cons_error hstate rest
  refine ⟨w'', hrun.trans hrun', ?_⟩
  rw [addressing, List.map_append]
  exact hwent.trans hwent'

/-- A statement succeeds at all of some targets, or there is a first one at which it fails. -/
theorem succeedsAt_or_fails (site : Site σ) (statement : String) (state : σ × FileTree)
    (targets : List Target) :
    (∃ state', SucceedsAt site statement state targets state') ∨
      ∃ first t rest state' f state'', targets = first ++ t :: rest ∧
        SucceedsAt site statement state first state' ∧
        executedAt site statement t state' = (.error f, state'') := by
  induction targets generalizing state with
  | nil => exact .inl ⟨state, .done state⟩
  | cons t rest ih =>
    rcases hone : executedAt site statement t state with ⟨f | _, state'⟩
    · exact .inr ⟨[], t, rest, state, f, state', rfl, .done state, hone⟩
    · rcases ih state' with ⟨last, hall⟩ | ⟨first, t', rest', before, f, after, rfl, hfirst, hfails⟩
      · exact .inl ⟨last, .next hone hall⟩
      · exact .inr ⟨t :: first, t', rest', before, f, after, rfl, .next hone hfirst, hfails⟩

/-! ## On the primaries -/

/-- The primaries of a layout are addressed once it is known. -/
theorem executeOnPrimaries_eq (database statement : String) :
    (executeOnPrimaries database statement : Op σ Unit) =
      layout >>= fun l => executeAll statement (primaryTargets database l.segments) := by
  have hprimary : Segment.isPrimary = fun s => decide (0 ≤ s.content ∧ s.role = .primary) := by
    funext s
    rw [Segment.isPrimary, Bool.decide_and]
    rfl
  unfold executeOnPrimaries executeAll primaryTargets Cluster.Layout.primaries
  rw [hprimary]
  refine congrArg (layout >>= ·) (funext fun l => ?_)
  rw [List.forM_eq_forM, List.forM_eq_forM, List.forM_map]
  rfl

/-- Running a statement on the primaries asks for the configuration, once. An unreadable row of it
is a fault before anything is executed. Otherwise the rows are those of segments, whose primaries
are addressed in their order: all of them where the statement succeeds everywhere, else those up to
and with the first that fails, whose fault is the answer. -/
theorem executeOnPrimaries_outcome (database statement : String) (site : Site σ) (w : World σ) :
    let asking := Call.query .template Sql.Statement.segmentConfiguration
    let (answer, state) := askedSegments site (w.server, w.files)
    let (result, w') := runAt (executeOnPrimaries database statement) site w
    (∀ f, answer = .error f → result = .error f ∧ Went w [asking] state w') ∧
      ∀ rows, answer = .ok rows →
        ((∃ row ∈ rows, Unreadable row) → (∃ f, result = .error f) ∧ Went w [asking] state w') ∧
        ((∀ row ∈ rows, ¬Unreadable row) →
          ∃ segments, List.Forall₂ IsRowOf rows segments ∧
            (result = .ok () ↔
              ∃ last, SucceedsAt site statement state (primaryTargets database segments) last) ∧
            (∀ last, SucceedsAt site statement state (primaryTargets database segments) last →
              Went w (asking :: addressing statement (primaryTargets database segments)) last w') ∧
            ∀ first t rest before f after,
              primaryTargets database segments = first ++ t :: rest →
              SucceedsAt site statement state first before →
              executedAt site statement t before = (.error f, after) →
              result = .error f ∧
                Went w (asking :: addressing statement (first ++ [t])) after w') := by
  intro asking
  obtain ⟨asked, hasked, hrefused, hread⟩ := runAt_layout_bind
    (fun l => executeAll statement (primaryTargets database l.segments)) site w
  rw [← executeOnPrimaries_eq] at hrefused hread
  rcases hanswer : askedSegments site (w.server, w.files) with ⟨answer, state⟩
  rcases hrun : runAt (executeOnPrimaries database statement) site w with ⟨result, w'⟩
  rw [hanswer] at hasked hrefused hread
  rw [hrun] at hrefused hread
  refine ⟨?_, fun rows hrows => ⟨?_, ?_⟩⟩
  · intro f hf
    cases hrefused f hf
    exact ⟨rfl, hasked⟩
  · intro hbad
    obtain ⟨f, hf⟩ := (hread rows hrows).1 hbad
    cases hf
    exact ⟨⟨f, rfl⟩, hasked⟩
  · intro hgood
    obtain ⟨l, hsegments, hexecute⟩ := (hread rows hrows).2 hgood
    -- The first target finds the state in which the configuration was answered.
    have hstate : (asked.server, asked.files) = state := by rw [hasked.server, hasked.files]
    have hall : ∀ last, SucceedsAt site statement state (primaryTargets database l.segments) last →
        result = .ok () ∧
          Went w (asking :: addressing statement (primaryTargets database l.segments)) last w' := by
      intro last hlast
      obtain ⟨w'', hrun', hwent⟩ := runAt_executeAll_ok (hstate ▸ hlast)
      cases hexecute.trans hrun'
      exact ⟨rfl, hasked.trans hwent⟩
    have hfails : ∀ first t rest before f after,
        primaryTargets database l.segments = first ++ t :: rest →
        SucceedsAt site statement state first before →
        executedAt site statement t before = (.error f, after) →
        result = .error f ∧ Went w (asking :: addressing statement (first ++ [t])) after w' := by
      intro first t rest before f after htargets hfirst hlast
      obtain ⟨w'', hrun', hwent⟩ := runAt_executeAll_error (hstate ▸ hfirst) hlast rest
      rw [← htargets] at hrun'
      cases hexecute.trans hrun'
      exact ⟨rfl, hasked.trans hwent⟩
    refine ⟨l.segments, hsegments, ⟨?_, ?_⟩, fun last hlast => ?_, hfails⟩
    · intro hok
      rcases succeedsAt_or_fails site statement state (primaryTargets database l.segments) with
        hlast | ⟨first, t, rest, before, f, after, htargets, hfirst, hlast⟩
      · exact hlast
      · have herror := (hfails first t rest before f after htargets hfirst hlast).1
        rw [hok] at herror
        cases herror
    · rintro ⟨last, hlast⟩
      exact (hall last hlast).1
    · exact (hall last hlast).2

/-- A configuration of a master, three primaries on two hosts, and a mirror. -/
def threePrimaries : List Sql.Row := [
  .ofTexts ["1", "-1", "p", "p", "s", "u", "5432", "mdw", "mdw"],
  .ofTexts ["2", "0", "p", "p", "s", "u", "40000", "sdw1", "sdw1-1"],
  .ofTexts ["3", "1", "m", "m", "s", "u", "50000", "sdw1", "sdw1-1"],
  .ofTexts ["4", "1", "p", "p", "s", "u", "40000", "sdw2", "sdw2-1"],
  .ofTexts ["5", "2", "p", "p", "s", "u", "40001", "sdw2", "sdw2-2"]]

/-- The layout of these rows. -/
def threePrimariesLayout : Cluster.Layout := ⟨[
  ⟨1, -1, .primary, .primary, .synchronized, .up, 5432, "mdw", "mdw"⟩,
  ⟨2, 0, .primary, .primary, .synchronized, .up, 40000, "sdw1", "sdw1-1"⟩,
  ⟨3, 1, .mirror, .mirror, .synchronized, .up, 50000, "sdw1", "sdw1-1"⟩,
  ⟨4, 1, .primary, .primary, .synchronized, .up, 40000, "sdw2", "sdw2-1"⟩,
  ⟨5, 2, .primary, .primary, .synchronized, .up, 40001, "sdw2", "sdw2-2"⟩]⟩

theorem ofRows_threePrimaries :
    Cluster.Layout.ofRows threePrimaries = .ok threePrimariesLayout := rfl

/-- The primaries of this layout. -/
def threeTargets (database : String) : List Target := [
  ⟨database, some "sdw1", some 40000, none, true⟩,
  ⟨database, some "sdw2", some 40000, none, true⟩,
  ⟨database, some "sdw2", some 40001, none, true⟩]

theorem primaryTargets_threePrimaries (database : String) {segments : List Segment}
    (h : List.Forall₂ IsRowOf threePrimaries segments) :
    primaryTargets database segments = threeTargets database := by
  have hread := (Cluster.Layout.ofRows_eq_ok_iff (l := ⟨segments⟩)).mpr h
  rw [ofRows_threePrimaries] at hread
  cases hread
  rfl

/-- A server with this configuration, one host of which refuses every statement. -/
def oneHostRefuses (host : String) : Services Unit where
  query _ _ := fun state => (.ok threePrimaries, state)
  execute t _ := fun state =>
    (if t.host = some host then .error (.plain .queryFailed "refused") else .ok (), state)
  run _ := fun state => (.error (.plain .commandFailed "no commands"), state)

/-- The second primary refuses the statement, and the third never gets it. -/
theorem executeOnPrimaries_second_refuses :
    let site := dataSite (oneHostRefuses "sdw2")
    let (result, w) := runAt (executeOnPrimaries "db" "checkpoint") site ⟨(), ⟨[]⟩, [], []⟩
    result = .error (.plain .queryFailed "refused") ∧
      w.calls = .query .template Sql.Statement.segmentConfiguration ::
        addressing "checkpoint" ((threeTargets "db").take 2) := by
  intro site
  have hgood := Cluster.Layout.not_unreadable_of_ofRows ofRows_threePrimaries
  have houtcome := executeOnPrimaries_outcome "db" "checkpoint" site ⟨(), ⟨[]⟩, [], []⟩
  rcases hrun : runAt (executeOnPrimaries "db" "checkpoint") site ⟨(), ⟨[]⟩, [], []⟩ with
    ⟨result, w⟩
  rw [hrun] at houtcome
  obtain ⟨segments, hsegments, -, -, hfails⟩ := (houtcome.2 threePrimaries rfl).2 hgood
  rw [primaryTargets_threePrimaries "db" hsegments] at hfails
  have hfirst : SucceedsAt site "checkpoint" ((), ⟨[]⟩) ((threeTargets "db").take 1) ((), ⟨[]⟩) :=
    .next rfl (.done _)
  obtain ⟨hresult, hwent⟩ := hfails _ _ _ _ _ _ rfl hfirst rfl
  exact ⟨hresult, hwent.calls⟩

end Op

end ClusterFixture
