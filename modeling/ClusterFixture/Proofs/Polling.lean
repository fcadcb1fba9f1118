/-
When polling stops, and what it has done by then.

A polling is a loop whose first round stands outside of it and whose bound is inclusive, so the
number of probes, the number of pauses, the number that is reported and the moment of giving up
could each be off by one. The file first says what the rounds see: `sight` unrolls probes and
pauses for ever, without looking at any answer. Then the two endings are read off it: the first
sight that settles decides, and where none settles in time the polling is exhausted. Both are
inductions on the rounds, for every state that probes and pauses work on.

The last part lets a polling loose on a sequence of answers given beforehand, and keeps a diary of
what it does.
-/

import ClusterFixture.Proofs.Running
import Mathlib.Data.Nat.Find

set_option autoImplicit false

namespace ClusterFixture.Poll

variable {s α : Type}

/-- A program on a state, which may fail. -/
abbrev Stateful (s : Type) := ExceptT Fault (StateM s)

/-- Whether an answer ends a polling: a fault does, and so does a value that will do. -/
def settles (done : α → Bool) : Checked α → Bool
  | .ok value => done value
  | .error _ => true

/-! ## What the rounds see -/

/-- The answer of the probe `k` rounds after attempt number `attempt`, and the state it leaves. The
rounds before have each probed and then waited. -/
def sight (wait : s → s) (probe : Nat → Stateful s α) : Nat → Nat → s → Checked α × s
  | attempt, 0, st => (probe attempt).run.run st
  | attempt, k + 1, st => sight wait probe (attempt + 1) k (wait ((probe attempt).run.run st).2)

/-- A sight is what one probe answers, from the state that the rounds before it left. -/
theorem exists_probe_eq_sight (wait : s → s) (probe : Nat → Stateful s α) (attempt k : Nat)
    (st : s) :
    ∃ before, (probe (attempt + k)).run.run before = sight wait probe attempt k st := by
  induction k generalizing attempt st with
  | zero => exact ⟨st, rfl⟩
  | succ k ih =>
    obtain ⟨before, hbefore⟩ := ih (attempt + 1) (wait ((probe attempt).run.run st).2)
    refine ⟨before, ?_⟩
    rw [sight, ← hbefore, Nat.add_right_comm, Nat.add_assoc]

section Rounds

variable (wait : s → s) (probe : Nat → Stateful s α) (done : α → Bool)

/-- The last round probes and does not wait. -/
theorem within_zero (attempt : Nat) (st : s) :
    (within? (modify wait : Stateful s Unit) probe done 0 attempt).run.run st =
      match (probe attempt).run.run st with
      | (.ok value, st') => (.ok (if done value then some ⟨value, attempt⟩ else none), st')
      | (.error f, st') => (.error f, st') := by
  simp only [within?, ExceptT.run, bind, ExceptT.bind, ExceptT.mk, StateT.bind, StateT.run]
  rcases probe attempt st with ⟨_ | _, _⟩ <;> rfl

/-- Any other round probes, and waits and goes on where the value will not do. -/
theorem within_succ (left attempt : Nat) (st : s) :
    (within? (modify wait : Stateful s Unit) probe done (left + 1) attempt).run.run st =
      match (probe attempt).run.run st with
      | (.ok value, st') =>
        if done value then (.ok (some ⟨value, attempt⟩), st')
        else (within? (modify wait) probe done left (attempt + 1)).run.run (wait st')
      | (.error f, st') => (.error f, st') := by
  simp only [within?, ExceptT.run, bind, ExceptT.bind, ExceptT.mk, StateT.bind, StateT.run]
  rcases probe attempt st with ⟨_ | value, st'⟩
  · rfl
  · simp only [ExceptT.bindCont]
    split <;> rfl

/-- A round that sees something settle is the last one, however many are left. -/
theorem within_of_settles (left attempt : Nat) (st : s)
    (hsettled : settles done ((probe attempt).run.run st).1 = true) :
    (within? (modify wait : Stateful s Unit) probe done left attempt).run.run st =
      (((probe attempt).run.run st).1.map fun value => some ⟨value, attempt⟩,
        ((probe attempt).run.run st).2) := by
  have hround : ∀ value st', (probe attempt).run.run st = (.ok value, st') → done value = true := by
    intro value st' hprobe
    rw [hprobe] at hsettled
    exact hsettled
  cases left with
  | zero =>
    rw [within_zero]
    rcases hprobe : (probe attempt).run.run st with ⟨_ | value, st'⟩
    · rfl
    · simp only [hround value st' hprobe, if_true]
      rfl
  | succ left =>
    rw [within_succ]
    rcases hprobe : (probe attempt).run.run st with ⟨_ | value, st'⟩
    · rfl
    · simp only [hround value st' hprobe, if_true]
      rfl

/-- A round that sees nothing settle has seen a value that will not do. -/
theorem exists_ok_of_unsettled {attempt : Nat} {st : s}
    (hfirst : settles done ((probe attempt).run.run st).1 = false) :
    ∃ value, (probe attempt).run.run st = (.ok value, ((probe attempt).run.run st).2) ∧
      done value = false := by
  rcases hprobe : (probe attempt).run.run st with ⟨_ | value, st'⟩
  · rw [hprobe] at hfirst
    cases hfirst
  · rw [hprobe] at hfirst
    exact ⟨value, rfl, hfirst⟩

/-- A round that sees nothing settle is followed by a pause and the rounds that are left. -/
theorem within_succ_of_unsettled (left attempt : Nat) (st : s)
    (hfirst : settles done ((probe attempt).run.run st).1 = false) :
    (within? (modify wait : Stateful s Unit) probe done (left + 1) attempt).run.run st =
      (within? (modify wait) probe done left (attempt + 1)).run.run
        (wait ((probe attempt).run.run st).2) := by
  obtain ⟨value, hprobe, hdone⟩ := exists_ok_of_unsettled probe done hfirst
  rw [within_succ, hprobe]
  simp only [hdone, Bool.false_eq_true, if_false]

/-- The first sight that settles ends the rounds, if it comes in time. The induction is on the
number of rounds before it: each of them saw a value that would not do. -/
theorem within_of_settled (k left attempt : Nat) (st : s) (hk : k ≤ left)
    (hbefore : ∀ j < k, settles done (sight wait probe attempt j st).1 = false)
    (hsettled : settles done (sight wait probe attempt k st).1 = true) :
    (within? (modify wait : Stateful s Unit) probe done left attempt).run.run st =
      ((sight wait probe attempt k st).1.map fun value => some ⟨value, attempt + k⟩,
        (sight wait probe attempt k st).2) := by
  induction k generalizing left attempt st with
  | zero => exact within_of_settles wait probe done left attempt st hsettled
  | succ k ih =>
    -- The settling sight is still to come, so there is at least one round left.
    obtain ⟨left, rfl⟩ : ∃ n, left = n + 1 := ⟨left - 1, by omega⟩
    have hlater : ∀ j < k, settles done
        (sight wait probe (attempt + 1) j (wait ((probe attempt).run.run st).2)).1 = false :=
      fun j hj => hbefore (j + 1) (by omega)
    rw [within_succ_of_unsettled wait probe done left attempt st (hbefore 0 (by omega)),
      ih left (attempt + 1) _ (by omega) hlater hsettled, Nat.add_right_comm]
    rfl

/-- Where no sight settles in time, nothing will do, and the last round has been made. -/
theorem within_of_unsettled (left attempt : Nat) (st : s)
    (hnone : ∀ j ≤ left, settles done (sight wait probe attempt j st).1 = false) :
    (within? (modify wait : Stateful s Unit) probe done left attempt).run.run st =
      (.ok none, (sight wait probe attempt left st).2) := by
  induction left generalizing attempt st with
  | zero =>
    obtain ⟨value, hprobe, hdone⟩ := exists_ok_of_unsettled probe done (hnone 0 (by omega))
    rw [within_zero, sight, hprobe]
    simp only [hdone, Bool.false_eq_true, if_false]
  | succ left ih =>
    rw [within_succ_of_unsettled wait probe done left attempt st (hnone 0 (by omega)),
      ih (attempt + 1) _ fun j hj => hnone (j + 1) (by omega)]
    rfl

end Rounds

/-! ## The two endings -/

section Endings

variable (policy : PollPolicy) (wait : Nat → s → s) (probe : Nat → Stateful s α)
variable (done : α → Bool) (st : s)

/-- A polling answers what the first settling sight is, with the number of pauses before it. -/
theorem untilDone_of_settled (k : Nat) (hk : k ≤ policy.attempts)
    (hbefore : ∀ j < k, settles done (sight (wait policy.interval) probe 0 j st).1 = false)
    (hsettled : settles done (sight (wait policy.interval) probe 0 k st).1 = true) :
    (untilDone policy (fun ms => (modify (wait ms) : Stateful s Unit)) probe done).run.run st =
      ((sight (wait policy.interval) probe 0 k st).1.map fun value => ⟨value, k⟩,
        (sight (wait policy.interval) probe 0 k st).2) := by
  have hrun := within_of_settled (wait policy.interval) probe done k policy.attempts 0 st hk
    hbefore hsettled
  simp only [ExceptT.run, StateT.run, Nat.zero_add] at hrun
  simp only [untilDone, ExceptT.run, bind, ExceptT.bind, ExceptT.mk, StateT.bind, StateT.run,
    hrun]
  rcases sight (wait policy.interval) probe 0 k st with ⟨_ | _, _⟩ <;> rfl

/-- A polling of which no sight settles in time fails, and has made its last probe. -/
theorem untilDone_of_unsettled
    (hnone : ∀ j ≤ policy.attempts,
      settles done (sight (wait policy.interval) probe 0 j st).1 = false) :
    (untilDone policy (fun ms => (modify (wait ms) : Stateful s Unit)) probe done).run.run st =
      (.error (exhausted policy), (sight (wait policy.interval) probe 0 policy.attempts st).2) := by
  have hrun := within_of_unsettled (wait policy.interval) probe done policy.attempts 0 st hnone
  simp only [ExceptT.run, StateT.run] at hrun
  simp only [untilDone, ExceptT.run, bind, ExceptT.bind, ExceptT.mk, StateT.bind, StateT.run,
    hrun]
  rfl

/-- Some sight is the first to settle in time, or none is. -/
theorem exists_first_or_none (answer : Nat → Bool) (bound : Nat) :
    (∃ k ≤ bound, answer k = true ∧ ∀ j < k, answer j = false) ∨
      ∀ j ≤ bound, answer j = false := by
  by_cases h : ∃ k, k ≤ bound ∧ answer k = true
  · left
    refine ⟨Nat.find h, (Nat.find_spec h).1, (Nat.find_spec h).2, fun j hj => ?_⟩
    have hmin := Nat.find_min h hj
    have hle := (Nat.find_spec h).1
    have hnot : ¬answer j = true := fun ht => hmin ⟨by omega, ht⟩
    simpa using hnot
  · right
    intro j hj
    have hnot : ¬answer j = true := fun ht => h ⟨j, hj, ht⟩
    simpa using hnot

/-- A polling that answers has seen its value on the last probe, and nothing before it settled. -/
theorem untilDone_eq_ok {outcome : PollOutcome α} {st' : s}
    (h : (untilDone policy (fun ms => (modify (wait ms) : Stateful s Unit)) probe done).run.run st =
      (.ok outcome, st')) :
    outcome.attempts ≤ policy.attempts ∧
      sight (wait policy.interval) probe 0 outcome.attempts st = (.ok outcome.value, st') ∧
      done outcome.value = true ∧
      ∀ j < outcome.attempts,
        settles done (sight (wait policy.interval) probe 0 j st).1 = false := by
  rcases exists_first_or_none
    (fun k => settles done (sight (wait policy.interval) probe 0 k st).1) policy.attempts
    with ⟨k, hk, hsettled, hbefore⟩ | hnone
  · rw [untilDone_of_settled policy wait probe done st k hk hbefore hsettled] at h
    rcases hsight : sight (wait policy.interval) probe 0 k st with ⟨_ | value, last⟩
    · rw [hsight] at h
      cases h
    · rw [hsight] at h hsettled
      cases h
      exact ⟨hk, hsight, hsettled, hbefore⟩
  · rw [untilDone_of_unsettled policy wait probe done st hnone] at h
    cases h

end Endings

/-! ## Answers given beforehand -/

/-- Something that a polling did. -/
inductive PollStep where
  /-- Probed, as attempt number so and so. -/
  | probe (attempt : Nat)
  /-- Waited for so many milliseconds. -/
  | pause (ms : Nat)
  deriving DecidableEq, Repr

/-- Whether a step is a probe. -/
def PollStep.isProbe : PollStep → Bool
  | .probe _ => true
  | .pause _ => false

/-- The number of probes in a diary. -/
def probes (diary : List PollStep) : Nat := diary.countP PollStep.isProbe

/-- The probe that answers from a sequence, each time the next member, and keeps a diary. It goes
by the probes already made and not by the number that it is told. -/
def fromSequence (answers : Nat → Checked α) (attempt : Nat) : Stateful (List PollStep) α :=
  ExceptT.mk fun diary => (answers (probes diary), diary ++ [.probe attempt])

/-- A polling on a sequence of answers: how it ends, and its diary. -/
def onSequence (policy : PollPolicy) (answers : Nat → Checked α) (done : α → Bool) :
    Checked (PollOutcome α) × List PollStep :=
  (untilDone policy (fun ms => modify fun diary => diary ++ [.pause ms])
    (fromSequence answers) done).run.run []

/-- The diary of a polling that probes, from attempt number `attempt` on, `k` more times after
the first, with a pause before each of those and none after the last. -/
def schedule (interval : Nat) : Nat → Nat → List PollStep
  | attempt, 0 => [.probe attempt]
  | attempt, k + 1 => .probe attempt :: .pause interval :: schedule interval (attempt + 1) k

@[simp] theorem probes_append (a b : List PollStep) : probes (a ++ b) = probes a + probes b :=
  List.countP_append

@[simp] theorem probes_probe (attempt : Nat) (diary : List PollStep) :
    probes (.probe attempt :: diary) = probes diary + 1 :=
  List.countP_cons_of_pos rfl

@[simp] theorem probes_pause (ms : Nat) (diary : List PollStep) :
    probes (.pause ms :: diary) = probes diary :=
  List.countP_cons_of_neg (by simp [PollStep.isProbe])

@[simp] theorem probes_nil : probes [] = 0 := rfl

/-- A schedule with `k` repetitions has one probe more than that. -/
theorem probes_schedule (interval attempt k : Nat) :
    probes (schedule interval attempt k) = k + 1 := by
  induction k generalizing attempt with
  | zero => simp [schedule]
  | succ k ih => simp [schedule, ih]

/-- A schedule with `k` repetitions has as many pauses, all of the interval. -/
theorem count_pause_schedule (interval attempt k : Nat) :
    (schedule interval attempt k).count (.pause interval) = k := by
  induction k generalizing attempt with
  | zero => simp [schedule]
  | succ k ih => simp [schedule, ih]

/-- On a sequence, sight number `k` is its member number `k`, and the diary follows the schedule. -/
theorem sight_fromSequence (answers : Nat → Checked α) (interval attempt k : Nat)
    (diary : List PollStep) :
    sight (fun diary => diary ++ [.pause interval]) (fromSequence answers) attempt k diary =
      (answers (probes diary + k), diary ++ schedule interval attempt k) := by
  induction k generalizing attempt diary with
  | zero => rfl
  | succ k ih =>
    have hprobe : ((fromSequence answers attempt).run.run diary).2 = diary ++ [.probe attempt] :=
      rfl
    rw [sight, hprobe, ih]
    simp [schedule, Nat.add_right_comm, Nat.add_assoc]

theorem onSequence_of_settled (policy : PollPolicy) (answers : Nat → Checked α)
    (done : α → Bool) (k : Nat) (hk : k ≤ policy.attempts)
    (hbefore : ∀ j < k, settles done (answers j) = false)
    (hsettled : settles done (answers k) = true) :
    onSequence policy answers done =
      ((answers k).map fun value => ⟨value, k⟩, schedule policy.interval 0 k) := by
  have hsight : ∀ j, sight (fun diary => diary ++ [.pause policy.interval])
      (fromSequence answers) 0 j [] = (answers j, schedule policy.interval 0 j) := by
    intro j
    rw [sight_fromSequence, probes_nil, Nat.zero_add, List.nil_append]
  have hrun := untilDone_of_settled policy (fun ms diary => diary ++ [.pause ms])
    (fromSequence answers) done [] k hk
    (fun j hj => by rw [hsight]; exact hbefore j hj) (by rw [hsight]; exact hsettled)
  rw [hsight] at hrun
  exact hrun

theorem onSequence_of_unsettled (policy : PollPolicy) (answers : Nat → Checked α)
    (done : α → Bool) (hnone : ∀ j ≤ policy.attempts, settles done (answers j) = false) :
    onSequence policy answers done =
      (.error (exhausted policy), schedule policy.interval 0 policy.attempts) := by
  have hsight : ∀ j, sight (fun diary => diary ++ [.pause policy.interval])
      (fromSequence answers) 0 j [] = (answers j, schedule policy.interval 0 j) := by
    intro j
    rw [sight_fromSequence, probes_nil, Nat.zero_add, List.nil_append]
  have hrun := untilDone_of_unsettled policy (fun ms diary => diary ++ [.pause ms])
    (fromSequence answers) done []
    (fun j hj => by rw [hsight]; exact hnone j hj)
  rw [hsight] at hrun
  exact hrun

/-- A polling on a sequence of answers, in full. Where `k` is the first place in time whose answer
settles, it makes `k + 1` probes with a pause between each two, and answers that fault or that value
with `k`; nothing behind place `k` and no value that `done` was not shown by then matters. Where no
place in time settles, it makes one probe more than the policy repeats, and times out. -/
theorem onSequence_follows_schedule (policy : PollPolicy) (answers : Nat → Checked α)
    (done : α → Bool) :
    (∀ k ≤ policy.attempts, settles done (answers k) = true →
      (∀ j < k, settles done (answers j) = false) →
        (onSequence policy answers done).1 = (answers k).map (fun value => ⟨value, k⟩) ∧
        (onSequence policy answers done).2 = schedule policy.interval 0 k ∧
        probes (onSequence policy answers done).2 = k + 1 ∧
        (onSequence policy answers done).2.count (.pause policy.interval) = k ∧
        ∀ (answers' : Nat → Checked α) (done' : α → Bool),
          (∀ j ≤ k, answers' j = answers j) →
          (∀ j ≤ k, ∀ value, answers j = .ok value → done' value = done value) →
          onSequence policy answers' done' = onSequence policy answers done) ∧
    ((∀ j ≤ policy.attempts, settles done (answers j) = false) →
      (onSequence policy answers done).1 = .error (exhausted policy) ∧
      (exhausted policy).kind = .timeout ∧
      (onSequence policy answers done).2 = schedule policy.interval 0 policy.attempts ∧
      probes (onSequence policy answers done).2 = policy.attempts + 1 ∧
      (onSequence policy answers done).2.count (.pause policy.interval) = policy.attempts) := by
  constructor
  · intro k hk hsettled hbefore
    have hrun := onSequence_of_settled policy answers done k hk hbefore hsettled
    rw [hrun]
    refine ⟨rfl, rfl, probes_schedule _ _ _, count_pause_schedule _ _ _, ?_⟩
    intro answers' done' hanswers hdone
    -- Up to place `k` the other sequence and the other test settle at the same places.
    have hsame : ∀ j ≤ k, settles done' (answers' j) = settles done (answers j) := by
      intro j hj
      rw [hanswers j hj]
      rcases hanswer : answers j with f | value
      · rfl
      · exact hdone j hj value hanswer
    rw [onSequence_of_settled policy answers' done' k hk
      (fun j hj => by rw [hsame j (by omega)]; exact hbefore j hj)
      (by rw [hsame k (Nat.le_refl k)]; exact hsettled), hanswers k (Nat.le_refl k)]
  · intro hnone
    rw [onSequence_of_unsettled policy answers done hnone]
    exact ⟨rfl, rfl, rfl, probes_schedule _ _ _, count_pause_schedule _ _ _⟩

end ClusterFixture.Poll
