/-
What a wait fails with.

A wait can fail because a query failed, because an answer holds no count, or because none of its
rounds shows the transition. Only the last should say that the wait ran out of time. Behind the
rounds it is told from the others by the kind of the fault alone, so the file follows every fault
that a query can answer, a collection of faults included, through to the end of the wait: all come
out as they are but those of the kind of running out of time. Faults of reading never have this
kind.
-/

import ClusterFixture.Proofs.Comparison
import ClusterFixture.Proofs.Rounds

set_option autoImplicit false

namespace ClusterFixture

open ClusterFixture.Cluster (Transition Endpoint)

variable {σ : Type}

/-! ## Faults of reading -/

namespace Sql.Row

theorem kind_of_integerOf {s : String} {f : Fault} (h : integerOf s = .error f) :
    f.kind = .conversionError := by
  unfold integerOf at h
  split at h
  · cases h
  · split at h
    · cases h
      rfl
    · split at h
      · cases h
      · cases h
        rfl

/-- A column that holds no integer is a fault of conversion, whatever is wrong with it. -/
theorem kind_of_integer {row : Row} {i : Nat} {f : Fault} (h : row.integer i = .error f) :
    f.kind = .conversionError := by
  rcases htext : row.text i with g | s
  · have hsame : g = f := by simpa [integer, htext, bind, Except.bind] using h
    rw [← hsame]
    unfold text at htext
    split at htext <;> cases htext <;> rfl
  · have hread : integerOf (Text.trim s) = .error f := by
      simpa [integer, htext, bind, Except.bind] using h
    exact kind_of_integerOf hread

end Sql.Row

namespace Op

/-- Where a query was answered and no count is found, the fault is none of running out of time. -/
theorem Reply.kind_of_answered {r : Reply} {rows : List Sql.Row} {f : Fault}
    (hanswer : r.answer = .ok rows) (hcount : r.count = .error f) : f.kind ≠ .timeout := by
  unfold Reply.count at hcount
  rw [hanswer] at hcount
  rcases rows with _ | ⟨row, rest⟩
  · cases hcount
    simp [noAnswer, Fault.kind]
  · rw [Sql.Row.kind_of_integer hcount]
    simp

/-! ## Faults of queries -/

/-- The fault of a wait whose rounds are used up. -/
def timedOut (transition : Transition) : Fault :=
  .detailed .timeout "Timed out" transition.timeoutText

/-- The faults that a wait reports as they are, the others being replaced. -/
theorem waitingFault_eq (transition : Transition) (f : Fault) :
    waitingFault transition f = if f.kind = .timeout then timedOut transition else f := by
  by_cases hkind : f.kind = .timeout
  · simp [waitingFault, hkind, timedOut]
  · simp [waitingFault, hkind]

theorem kind_timedOut (transition : Transition) : (timedOut transition).kind = .timeout := rfl

/-- A fault is reported as it is unless it has the kind of running out of time and is not just what
is said of that anyway. -/
theorem waitingFault_eq_self_iff (transition : Transition) (f : Fault) :
    waitingFault transition f = f ↔ f.kind ≠ .timeout ∨ f = timedOut transition := by
  rw [waitingFault_eq]
  by_cases hkind : f.kind = .timeout
  · rw [if_pos hkind, eq_comm]
    simp [hkind]
  · simp [hkind]

theorem waitingFault_eq_timedOut_iff (transition : Transition) (f : Fault) :
    waitingFault transition f = timedOut transition ↔ f.kind = .timeout := by
  rw [waitingFault_eq]
  by_cases hkind : f.kind = .timeout
  · simp [hkind]
  · simp only [hkind, if_false, iff_false]
    intro hsame
    rw [hsame, kind_timedOut] at hkind
    exact hkind rfl

namespace Wait

variable {site : Site σ} {transition : Transition} {endpoint : Endpoint} {k : Nat}
  {state : σ × FileTree} {f : Fault}

/-- A round went through, to counts that do not show the transition. -/
def Misses (site : Site σ) (transition : Transition) (endpoint : Endpoint) (k : Nat)
    (state : σ × FileTree) : Prop :=
  ∃ counts, Shows transition.queries (round site transition endpoint k state) counts ∧
    transition.isReached counts = false

/-- A wait comes to a round, and a query of this round is answered with a fault. -/
structure Meets (site : Site σ) (transition : Transition) (endpoint : Endpoint) (k : Nat)
    (f : Fault) (state : σ × FileTree) : Prop where
  inTime : k ≤ site.settings.transitionPoll.attempts
  before : ∀ j < k, Misses site transition endpoint j state
  answered : ∃ r ∈ round site transition endpoint k state, r.answer = .error f

/-- All rounds that a wait may make go through, and none of them shows the transition. -/
def RunsOut (site : Site σ) (transition : Transition) (endpoint : Endpoint)
    (state : σ × FileTree) : Prop :=
  ∀ k ≤ site.settings.transitionPoll.attempts, Misses site transition endpoint k state

/-- The rounds that do not settle a wait are those that go through and miss. -/
theorem misses_iff : Misses site transition endpoint k state ↔
    settles site transition endpoint k state = false := by
  constructor
  · rintro ⟨counts, hshows, hmissed⟩
    rw [settles_of_shows hshows]
    exact hmissed
  · exact shows_of_unsettled

/-- A round in which a query fails answers the fault of that query: nothing before it failed, and
nothing behind it was asked. -/
theorem countsOf_of_failed {r : Reply} (hmem : r ∈ round site transition endpoint k state)
    (hanswer : r.answer = .error f) :
    countsOf (round site transition endpoint k state) = .error f := by
  have hcount : r.count = .error f := by
    unfold Reply.count
    rw [hanswer]
    rfl
  rcases shows_or_breaksOff site transition endpoint k state with ⟨counts, hshows⟩ | hbreaks
  · -- All replies of a round that went through hold counts.
    have hok : r.count ∈ counts.map Except.ok := by
      rw [← hshows.2]
      exact List.mem_map_of_mem hmem
    rw [hcount] at hok
    simp at hok
  · obtain ⟨counted, last, hround, -, hcounted, -⟩ := hbreaks
    rw [hround] at hmem ⊢
    rcases List.mem_append.mp hmem with hmem | hmem
    · obtain ⟨n, hn⟩ := hcounted r hmem
      rw [hcount] at hn
      cases hn
    · rw [List.mem_singleton] at hmem
      rw [hmem] at hcount
      exact countsOf_concat_of_error hcounted hcount

/-- A round that answers a fault of running out of time has it from a query. -/
theorem exists_failed_of_timeout
    (h : countsOf (round site transition endpoint k state) = .error f) (hkind : f.kind = .timeout) :
    ∃ r ∈ round site transition endpoint k state, r.answer = .error f := by
  rcases shows_or_breaksOff site transition endpoint k state with ⟨counts, hshows⟩ | hbreaks
  · rw [hshows.countsOf] at h
    cases h
  · obtain ⟨counted, last, hround, -, hcounted, hlast⟩ := hbreaks
    obtain ⟨g, hg⟩ := (Reply.fails_iff last).mp hlast
    have hsame : g = f := by
      rw [hround, countsOf_concat_of_error hcounted hg] at h
      exact Except.error.inj h
    rw [hsame] at hg
    refine ⟨last, by simp [hround], ?_⟩
    rcases hanswer : last.answer with g' | rows
    · have hcount : last.count = .error g' := by
        unfold Reply.count
        rw [hanswer]
        rfl
      rw [hcount] at hg
      rw [Except.error.inj hg]
    · exact absurd hkind (Reply.kind_of_answered hanswer hg)

/-! ## The end of a wait -/

/-- A wait that meets a fault ends there, and reports what becomes of it. -/
theorem runAt_waitFor_of_meets {w : World σ}
    (h : Meets site transition endpoint k f (w.server, w.files)) :
    ∃ w', runAt (waitFor transition endpoint) site w = (.error (waitingFault transition f), w') ∧
      w'.calls = w.calls ++ calls site transition endpoint k (w.server, w.files) := by
  obtain ⟨hk, hbefore, r, hmem, hanswer⟩ := h
  have hcounts := countsOf_of_failed hmem hanswer
  have hsettled : settles site transition endpoint k (w.server, w.files) = true := by
    unfold settles
    rw [hcounts]
    rfl
  obtain ⟨w', hrun, hcalls⟩ := runAt_waitFor_of_settled transition endpoint site w k hk
    (fun j hj => misses_iff.mp (hbefore j hj)) hsettled
  rw [hcounts] at hrun
  exact ⟨w', hrun, hcalls⟩

/-- A wait whose rounds are used up says so. -/
theorem runAt_waitFor_of_runsOut {w : World σ}
    (h : RunsOut site transition endpoint (w.server, w.files)) :
    ∃ w', runAt (waitFor transition endpoint) site w = (.error (timedOut transition), w') ∧
      w'.calls = w.calls ++ calls site transition endpoint
        site.settings.transitionPoll.attempts (w.server, w.files) := by
  obtain ⟨w', hrun, hcalls⟩ := runAt_waitFor_of_unsettled transition endpoint site w
    fun j hj => misses_iff.mp (h j hj)
  rw [(waitingFault_eq_timedOut_iff transition _).mpr rfl] at hrun
  exact ⟨w', hrun, hcalls⟩

/-- A wait that says so has used up its rounds, or met a fault of this kind. -/
theorem runsOut_or_meets_of_timedOut {w : World σ}
    (h : (runAt (waitFor transition endpoint) site w).1 = .error (timedOut transition)) :
    RunsOut site transition endpoint (w.server, w.files) ∨
      ∃ k f, Meets site transition endpoint k f (w.server, w.files) ∧ f.kind = .timeout := by
  rcases Poll.exists_first_or_none
    (fun k => settles site transition endpoint k (w.server, w.files))
    site.settings.transitionPoll.attempts with ⟨k, hk, hsettled, hbefore⟩ | hnone
  · obtain ⟨w', hrun, -⟩ :=
      runAt_waitFor_of_settled transition endpoint site w k hk hbefore hsettled
    rw [hrun] at h
    rcases hcounts : countsOf (round site transition endpoint k (w.server, w.files)) with f | counts
    · rw [hcounts] at h
      have hkind := (waitingFault_eq_timedOut_iff transition f).mp (Except.error.inj h)
      have hanswered := exists_failed_of_timeout hcounts hkind
      exact .inr ⟨k, f, ⟨hk, fun j hj => misses_iff.mpr (hbefore j hj), hanswered⟩, hkind⟩
    · rw [hcounts] at h
      cases h
  · exact .inl fun k hk => misses_iff.mpr (hnone k hk)

end Wait

/-- What a wait fails with, for every server and every state. Where it comes to a query that is
answered with a fault, it makes no further call and fails; it reports this very fault exactly if the
fault is not of the kind of running out of time, or is what is said of that anyway. Where all rounds
that it may make go through and none shows the transition, it has made one round more than the
policy repeats and says that time ran out. It says so in no other case but one: a query was answered
with a fault of this kind. -/
theorem waitFor_passes_fault_iff (transition : Transition) (endpoint : Endpoint) (site : Site σ)
    (w : World σ) :
    let state := (w.server, w.files)
    let run := runAt (waitFor transition endpoint) site w
    (∀ k f, Wait.Meets site transition endpoint k f state →
        run.2.calls = w.calls ++ Wait.calls site transition endpoint k state ∧
          (∃ g, run.1 = .error g) ∧
          (run.1 = .error f ↔ f.kind ≠ .timeout ∨ f = timedOut transition)) ∧
      (Wait.RunsOut site transition endpoint state →
        run.2.calls = w.calls ++
            Wait.calls site transition endpoint site.settings.transitionPoll.attempts state ∧
          run.1 = .error (timedOut transition)) ∧
      (run.1 = .error (timedOut transition) ↔
        Wait.RunsOut site transition endpoint state ∨
          ∃ k f, Wait.Meets site transition endpoint k f state ∧ f.kind = .timeout) := by
  intro state run
  refine ⟨?_, ?_, Wait.runsOut_or_meets_of_timedOut, ?_⟩
  · intro k f hmeets
    obtain ⟨w', hrun, hcalls⟩ := Wait.runAt_waitFor_of_meets hmeets
    simp only [run, hrun]
    refine ⟨hcalls, ⟨_, rfl⟩, ?_⟩
    rw [Except.error.injEq, waitingFault_eq_self_iff]
  · intro hout
    obtain ⟨w', hrun, hcalls⟩ := Wait.runAt_waitFor_of_runsOut hout
    rw [show run = _ from hrun]
    exact ⟨hcalls, rfl⟩
  · rintro (hout | ⟨k, f, hmeets, hkind⟩)
    · obtain ⟨w', hrun, -⟩ := Wait.runAt_waitFor_of_runsOut hout
      simp only [run, hrun]
    · obtain ⟨w', hrun, -⟩ := Wait.runAt_waitFor_of_meets hmeets
      simp only [run, hrun]
      rw [(waitingFault_eq_timedOut_iff transition f).mpr hkind]

/-! ## Servers that fail -/

/-- A server that answers every query with one fault. -/
def failingWith (f : Fault) : Services Unit where
  query _ _ := fun state => (.error f, state)
  execute _ _ := fun state => (.error f, state)
  run _ := fun state => (.error (.plain .commandFailed "no commands"), state)

/-- A world in which nothing has happened. -/
def quietWorld : World Unit := ⟨(), ⟨[]⟩, [], []⟩

/-- The endpoint of the site's own server. -/
def ownEndpoint : Endpoint := ⟨"localhost", 15432, "gpadmin"⟩

/-- A wait at such a server meets its fault with the first query. -/
theorem meets_failingWith (f : Fault) (transition : Transition) :
    Wait.Meets (dataSite (failingWith f)) transition ownEndpoint 0 f ((), ⟨[]⟩) where
  inTime := Nat.zero_le _
  before := nofun
  answered := by
    cases transition with
    | changeTracking => exact ⟨⟨Sql.Statement.changeTrackingCount, _⟩, .head _, rfl⟩
    | inSync => exact ⟨⟨Sql.Statement.notInSyncOrDownCount, _⟩, .head _, rfl⟩
    | resync => exact ⟨⟨Sql.Statement.resyncCount, _⟩, .head _, rfl⟩

/-- A lost connection is reported as it is, after one query. -/
theorem waitFor_passes_fault_iff_lost :
    let lost := Fault.detailed .connectionFailed "connection lost" "mdw:5432"
    Wait.Meets (dataSite (failingWith lost)) .resync ownEndpoint 0 lost ((), ⟨[]⟩) ∧
      (runAt (waitFor .resync ownEndpoint) (dataSite (failingWith lost)) quietWorld).1 =
        .error lost := by
  intro lost
  have hmeets := meets_failingWith lost .resync
  have hoccurs := waitFor_passes_fault_iff .resync ownEndpoint (dataSite (failingWith lost))
    quietWorld
  exact ⟨hmeets, (hoccurs.1 0 lost hmeets).2.2.mpr (.inl nofun)⟩

/-- A statement that the server gave up on. -/
def givenUp : Fault := .detailed .timeout "statement timeout" "canceling statement"

/-- The same fault, and a lost connection after it. -/
def givenUpAndLost : Fault := .several [givenUp, .plain .connectionFailed "connection lost"]

/-- A server that fails with the kind of running out of time is reported as a transition that did not
come, after one query of the more than eighty rounds. -/
theorem runAt_waitFor_failingWith {f : Fault} (hkind : f.kind = .timeout) :
    ∃ w', runAt (waitFor .changeTracking ownEndpoint) (dataSite (failingWith f)) quietWorld =
        (.error (timedOut .changeTracking), w') ∧
      w'.calls = [.query ownEndpoint.target Sql.Statement.changeTrackingCount] := by
  have hmeets := meets_failingWith f .changeTracking
  obtain ⟨w', hrun, hcalls⟩ := Wait.runAt_waitFor_of_meets (w := quietWorld) hmeets
  rw [(waitingFault_eq_timedOut_iff .changeTracking f).mpr hkind] at hrun
  exact ⟨w', hrun, hcalls⟩

/-- So it is when the server gives up on the first query, and when it answers this with a collection
of faults that begins with this one. -/
theorem waitFor_replaces_fault :
    (Wait.Meets (dataSite (failingWith givenUp)) .changeTracking ownEndpoint 0 givenUp ((), ⟨[]⟩) ∧
      givenUp ≠ .detailed .timeout "Timed out" "cluster not in change tracking" ∧
      ∃ w', runAt (waitFor .changeTracking ownEndpoint) (dataSite (failingWith givenUp))
          quietWorld =
            (.error (.detailed .timeout "Timed out" "cluster not in change tracking"), w') ∧
        w'.calls = [.query ownEndpoint.target Sql.Statement.changeTrackingCount]) ∧
    Wait.Meets (dataSite (failingWith givenUpAndLost)) .changeTracking ownEndpoint 0 givenUpAndLost
        ((), ⟨[]⟩) ∧
      givenUpAndLost ≠ .detailed .timeout "Timed out" "cluster not in change tracking" ∧
      ∃ w', runAt (waitFor .changeTracking ownEndpoint) (dataSite (failingWith givenUpAndLost))
          quietWorld =
            (.error (.detailed .timeout "Timed out" "cluster not in change tracking"), w') ∧
        w'.calls = [.query ownEndpoint.target Sql.Statement.changeTrackingCount] := by
  have hfirst : givenUp.kind = .timeout := rfl
  have hcollected : givenUpAndLost.kind = .timeout := by
    simp [givenUpAndLost, givenUp, Fault.kind]
  exact ⟨⟨meets_failingWith _ _, by simp [givenUp], runAt_waitFor_failingWith hfirst⟩,
    meets_failingWith _ _, by simp [givenUpAndLost], runAt_waitFor_failingWith hcollected⟩

end Op

end ClusterFixture
