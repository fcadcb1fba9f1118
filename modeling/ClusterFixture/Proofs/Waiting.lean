/-
What waiting for a transition comes down to: a polling of which every probe counts once.

The operation works at a site, and a polling works on a state. At a fixed site the two agree
(`untilDone_at`), so what is known of pollings holds of waiting. A wait that answers has its counts
from one whole probe, its last, and those counts show the transition.
-/

import ClusterFixture.Operation.Waiting
import ClusterFixture.Proofs.Polling

set_option autoImplicit false

namespace ClusterFixture.Op

open ClusterFixture.Cluster (Transition Endpoint)

variable {σ α : Type}

/-! ## Polling at a site -/

/-- Waiting changes the server alone, and never fails. -/
theorem pause_at (site : Site σ) (ms : Nat) :
    (pause ms : Op σ Unit) site = (modify (waited site ms) : Poll.Stateful (World σ) Unit) := rfl

theorem within_at (site : Site σ) (ms : Nat) (look : Nat → Op σ α) (done : α → Bool)
    (left attempt : Nat) :
    (Poll.within? (pause ms) look done left attempt) site =
      Poll.within? (modify (waited site ms) : Poll.Stateful (World σ) Unit)
        (fun k => look k site) done left attempt := by
  induction left generalizing attempt with
  | zero =>
    simp only [Poll.within?, bind, ReaderT.bind]
    rfl
  | succ left ih =>
    simp only [Poll.within?, bind, ReaderT.bind]
    congr 1
    funext value
    cases done value
    · -- Only here does the round go on, so only here is there anything to compare.
      show (pause ms site >>= fun _ =>
        Poll.within? (pause ms) look done left (attempt + 1) site) = _
      rw [pause_at, ih]
      rfl
    · rfl

/-- A polling by operations is, at a site, a polling on the world. -/
theorem untilDone_at (site : Site σ) (policy : PollPolicy) (look : Nat → Op σ α)
    (done : α → Bool) :
    (Poll.untilDone policy pause look done) site =
      Poll.untilDone policy (fun ms => (modify (waited site ms) : Poll.Stateful (World σ) Unit))
        (fun k => look k site) done := by
  simp only [Poll.untilDone, bind, ReaderT.bind, within_at]
  congr 1
  funext outcome
  cases outcome <;> rfl

/-! ## The probes of a wait -/

/-- The integer that an answer to a counting query holds, if the answer is one. -/
def countOf (statement : String) : Checked (List Sql.Row) → Checked Int
  | .error f => .error f
  | .ok [] => .error (noAnswer statement)
  | .ok (row :: _) => row.integer 0

/-- A counting query asks once and reads the first row. -/
theorem runAt_probeCount (target : Sql.Target) (statement : String) (site : Site σ)
    (w : World σ) :
    runAt (probeCount target statement) site w =
      (countOf statement ((site.services.query target statement).run (w.server, w.files)).1,
        (w.noted (sending "querying" target statement)).served (.query target statement)
          ((site.services.query target statement).run (w.server, w.files)).2) := by
  rw [probeCount, runAt_bind, runAt_queryAt]
  rcases (site.services.query target statement).run (w.server, w.files) with ⟨_ | rows, after⟩
  · rfl
  · rcases rows with _ | ⟨row, rest⟩
    · rfl
    · exact runAt_check _ _ _

/-- One probe of a wait, with its record. -/
def notedProbe (transition : Transition) (target : Sql.Target) (attempt : Nat) :
    Op σ (List Int) := do
  let counts ← probe transition target
  log .debug .waiting "polled"
    [("attempt", .integer attempt), ("value", .string (countsText counts))]
  return counts

theorem runAt_notedProbe_eq_ok {transition : Transition} {target : Sql.Target} {attempt : Nat}
    {site : Site σ} {w w' : World σ} {counts : List Int}
    (h : runAt (notedProbe transition target attempt) site w = (.ok counts, w')) :
    ∃ w₁ r, runAt (probe transition target) site w = (.ok counts, w₁) ∧ w' = w₁.noted r := by
  obtain ⟨counts', w₁, hprobe, hrest⟩ := runAt_bind_eq_ok.mp h
  obtain ⟨_, w₂, hlog, hpure⟩ := runAt_bind_eq_ok.mp hrest
  rw [runAt_log] at hlog
  rw [runAt_pure] at hpure
  cases hlog
  cases hpure
  exact ⟨w₁, _, hprobe, rfl⟩

/-- What a wait begins with: it says what it waits for. -/
def waitRecord (transition : Transition) (endpoint : Endpoint) : Telemetry.Record :=
  ⟨.info, .waiting, "waiting for cluster transition",
    [("transition", .string transition.name), ("host", .string endpoint.host),
      ("port", .integer endpoint.port)]⟩

/-- What a wait ends with: it says what it has seen. -/
def reachedRecord (transition : Transition) (outcome : PollOutcome (List Int)) :
    Telemetry.Record :=
  ⟨.info, .waiting, "cluster transition reached",
    [("transition", .string transition.name), ("attempts", .integer outcome.attempts),
      ("counts", .string (countsText outcome.value))]⟩

/-- A wait is a polling by noted probes under the policy of the site; it reports how that ended. -/
theorem runAt_waitFor (transition : Transition) (endpoint : Endpoint) (site : Site σ)
    (w : World σ) :
    runAt (waitFor transition endpoint) site w =
      match runAt (Poll.untilDone site.settings.transitionPoll pause
          (notedProbe transition endpoint.target) transition.isReached) site
          (w.noted (waitRecord transition endpoint)) with
      | (.ok outcome, w') => (.ok outcome.value, w'.noted (reachedRecord transition outcome))
      | (.error f, w') => (.error (waitingFault transition f), w') := by
  have hattempt := runAt_attempt (Poll.untilDone site.settings.transitionPoll pause
    (notedProbe transition endpoint.target) transition.isReached) site
    (w.noted (waitRecord transition endpoint))
  rw [waitFor, runAt_bind_ok (runAt_settings site w), runAt_bind_ok (runAt_log _ _ _ _ _ _)]
  refine (runAt_bind_ok hattempt _).trans ?_
  rcases runAt (Poll.untilDone site.settings.transitionPoll pause
    (notedProbe transition endpoint.target) transition.isReached) site
    (w.noted (waitRecord transition endpoint)) with ⟨_ | _, _⟩ <;> rfl

/-- A wait that answers has its counts from its last probe, which began in some world, ran to its
end and showed the transition; after it nothing happened but records. -/
theorem waitFor_eq_ok {transition : Transition} {endpoint : Endpoint} {site : Site σ}
    {w w' : World σ} {counts : List Int}
    (h : runAt (waitFor transition endpoint) site w = (.ok counts, w')) :
    ∃ before after r₁ r₂,
      runAt (probe transition endpoint.target) site before = (.ok counts, after) ∧
      transition.isReached counts = true ∧
      w' = (after.noted r₁).noted r₂ := by
  rw [runAt_waitFor] at h
  rcases hpoll : runAt (Poll.untilDone site.settings.transitionPoll pause
    (notedProbe transition endpoint.target) transition.isReached) site
    (w.noted (waitRecord transition endpoint)) with ⟨_ | outcome, w₁⟩
  · rw [hpoll] at h
    cases h
  · rw [hpoll] at h
    cases h
    rw [runAt, untilDone_at] at hpoll
    obtain ⟨_, hsight, hdone, _⟩ := Poll.untilDone_eq_ok _ _ _ _ _ hpoll
    -- The last sight is a noted probe from the world that the rounds before left.
    have hlast : ∃ k before, runAt (notedProbe transition endpoint.target k) site before =
        (.ok outcome.value, w₁) := by
      obtain ⟨before, hbefore⟩ := Poll.exists_probe_eq_sight _ _ 0 outcome.attempts _
      exact ⟨_, before, hbefore.trans hsight⟩
    obtain ⟨k, before, hprobe⟩ := hlast
    obtain ⟨after, r, hcounts, rfl⟩ := runAt_notedProbe_eq_ok hprobe
    exact ⟨before, after, r, _, hcounts, hdone, rfl⟩

/-- A wait whose first probe shows the transition answers the counts of that probe. -/
theorem waitFor_of_first {transition : Transition} {endpoint : Endpoint} {site : Site σ}
    {w after : World σ} {counts : List Int}
    (hprobe : runAt (probe transition endpoint.target) site
      (w.noted (waitRecord transition endpoint)) = (.ok counts, after))
    (hreached : transition.isReached counts = true) :
    ∃ r₁ r₂, runAt (waitFor transition endpoint) site w =
      (.ok counts, (after.noted r₁).noted r₂) := by
  have hnoted : ∃ r, runAt (notedProbe transition endpoint.target 0) site
      (w.noted (waitRecord transition endpoint)) = (.ok counts, after.noted r) := by
    rw [notedProbe, runAt_bind_ok hprobe, runAt_bind_ok (runAt_log _ _ _ _ _ _)]
    exact ⟨_, rfl⟩
  obtain ⟨r, hnoted⟩ := hnoted
  have hsight : Poll.sight (waited site site.settings.transitionPoll.interval)
      (fun k => notedProbe transition endpoint.target k site) 0 0
      (w.noted (waitRecord transition endpoint)) = (.ok counts, after.noted r) := hnoted
  have hrun := Poll.untilDone_of_settled site.settings.transitionPoll (waited site)
    (fun k => notedProbe transition endpoint.target k site) transition.isReached
    (w.noted (waitRecord transition endpoint)) 0 (Nat.zero_le _)
    (fun j hj => absurd hj (Nat.not_lt_zero j)) (by rw [hsight]; exact hreached)
  rw [hsight] at hrun
  have hpoll : runAt (Poll.untilDone site.settings.transitionPoll pause
      (notedProbe transition endpoint.target) transition.isReached) site
      (w.noted (waitRecord transition endpoint)) = (.ok ⟨counts, 0⟩, after.noted r) := by
    rw [runAt, untilDone_at]
    exact hrun
  rw [runAt_waitFor, hpoll]
  exact ⟨_, _, rfl⟩

end ClusterFixture.Op
