/-
How the utilities for databases are run again and again.

An attempt runs the utility and, where that ended well, reads the listing of the server. Four things
can come of it: the utility cannot be started, it ends badly, the listing cannot be read, or the
listing is read and shows the effect or does not. The file first unrolls the attempts for ever,
without asking what they decide (`Retry.before`); then the two endings are read off: the first
attempt that decides anything, or the last one that is allowed.

The step is one attempt, `runAt_retryUtility_succ`; the run is an induction on the attempts that are
left.
-/

import ClusterFixture.Operation.Databases
import ClusterFixture.Proofs.Running
import Mathlib.Logic.Function.Iterate

set_option autoImplicit false

namespace ClusterFixture.Op

variable {σ : Type}

/-! ## The two utilities -/

/-- The utilities for databases. -/
inductive DatabaseUtility where
  | create
  | drop
  deriving DecidableEq, Repr

namespace DatabaseUtility

/-- The line that runs a utility for a database. -/
def line (u : DatabaseUtility) (database : String) : String :=
  match u with
  | .create => "createdb " ++ database
  | .drop => "dropdb " ++ database

/-- Whether a listing shows what a utility is for. -/
def shows (u : DatabaseUtility) (database : String) (rows : List Sql.Row) : Bool :=
  match u with
  | .create => rows.any fun row => row.text? 0 == some database
  | .drop => !(rows.any fun row => row.text? 0 == some database)

/-- Reads the listing. -/
def settled (u : DatabaseUtility) (database : String) : Op σ Bool :=
  match u with
  | .create => databaseExists database
  | .drop => return !(← databaseExists database)

/-- The fault where the last run ended well, but the listing did not show its effect. -/
def exhausted (u : DatabaseUtility) (database : String) (attempts : Nat) : Fault :=
  match u with
  | .create => .detailed .commandFailed "Database creation failed"
      ("createdb for '" ++ database ++ "' failed after " ++ attempts.repr ++ " attempts")
  | .drop => .detailed .commandFailed "Database removal failed"
      ("db exists after dropping: " ++ database)

/-- What runs a utility until the listing shows its effect. -/
def operation (u : DatabaseUtility) (database : String) : Op σ Unit :=
  match u with
  | .create => createDatabase database
  | .drop => dropDatabase database

theorem runAt_operation (u : DatabaseUtility) (database : String) (site : Site σ) (w : World σ) :
    runAt (u.operation database) site w =
      runAt (retryUtility (u.line database) (u.settled database)
        (u.exhausted database site.settings.databaseRetry.attempts)
        site.settings.databaseRetry.interval site.settings.databaseRetry.attempts none) site w := by
  cases u with
  | create => exact runAt_bind_ok (runAt_settings site w) _
  | drop => exact runAt_bind_ok (runAt_settings site w) _

end DatabaseUtility

/-! ## One attempt -/

/-- The command that runs the line of a utility. -/
def utilityCommand (s : Settings.Harness) (line : String) : Command where
  name := "run " ++ line
  line := if s.home.isEmpty then line else s.utility line
  bindings := [
      ("PGHOST", s.connection.host), ("PGPORT", s.connection.port.repr),
      ("PGUSER", s.connection.user), ("MASTER_DATA_DIRECTORY", s.masterDirectory)]
      ++ (if s.home.isEmpty then [] else [("GPHOME", s.home)])

theorem runAt_runUtility (line : String) (site : Site σ) (w : World σ) :
    runAt (runUtility line) site w =
      (((site.services.run (utilityCommand site.settings line)).run (w.server, w.files)).1.map
          (CommandOutcome.of (utilityCommand site.settings line)),
        w.served (.run (utilityCommand site.settings line))
          ((site.services.run (utilityCommand site.settings line)).run (w.server, w.files)).2) := by
  have hcommand : runAt (runUtility line) site w =
      runAt (outcome (utilityCommand site.settings line)) site w := rfl
  rw [hcommand, runAt_outcome]

/-- Reading the listing is one query in the template database. -/
theorem runAt_settled (u : DatabaseUtility) (database : String) (site : Site σ) (w : World σ) :
    ∃ w', runAt (u.settled database) site w =
        (((site.services.query .template Sql.Statement.listDatabases).run
          (w.server, w.files)).1.map (u.shows database), w') ∧
      Went w [.query .template Sql.Statement.listDatabases]
        ((site.services.query .template Sql.Statement.listDatabases).run (w.server, w.files)).2
        w' := by
  obtain ⟨w', hquery, hwent⟩ := went_queryAt .template Sql.Statement.listDatabases site w
  have hexists : runAt (databaseExists database) site w =
      (((site.services.query .template Sql.Statement.listDatabases).run
        (w.server, w.files)).1.map (DatabaseUtility.create.shows database), w') := by
    rw [databaseExists, runAt_bind, hquery]
    rcases ((site.services.query .template Sql.Statement.listDatabases).run (w.server, w.files)).1
      with f | rows <;> rfl
  refine ⟨w', ?_, hwent⟩
  cases u with
  | create => exact hexists
  | drop =>
    rw [DatabaseUtility.settled, runAt_bind, hexists]
    rcases ((site.services.query .template Sql.Statement.listDatabases).run (w.server, w.files)).1
      with f | rows <;> rfl

/-- What came of an attempt. -/
inductive Attempt where
  /-- The utility could not be started. -/
  | unstarted (f : Fault)
  /-- The utility ended badly. -/
  | failed (output : CommandOutput)
  /-- The utility ended well, and the listing was read. -/
  | ended (output : CommandOutput) (listing : Checked (List Sql.Row))

namespace Attempt

/-- What an attempt decides: the fault of a utility that cannot be started or of a listing that
cannot be read, or success, where the listing shows the effect. -/
def decides (u : DatabaseUtility) (database : String) : Attempt → Option (Checked Unit)
  | .unstarted f => some (.error f)
  | .failed _ => none
  | .ended _ (.error f) => some (.error f)
  | .ended _ (.ok rows) => if u.shows database rows then some (.ok ()) else none

/-- The failure of a utility that ended badly. -/
def failure? (c : Command) : Attempt → Option Fault
  | .failed output => some (output.failure c)
  | _ => none

/-- Whether the utility ended well. -/
def endedWell : Attempt → Bool
  | .ended _ _ => true
  | _ => false

/-- The calls of an attempt. -/
def calls (c : Command) (a : Attempt) : List Call :=
  if a.endedWell then [.run c, .query .template Sql.Statement.listDatabases] else [.run c]

end Attempt

namespace Retry

/-- One attempt, and the state that it leaves. -/
def once (site : Site σ) (c : Command) (state : σ × FileTree) : Attempt × (σ × FileTree) :=
  let ran := (site.services.run c).run state
  match ran.1 with
  | .error f => (.unstarted f, ran.2)
  | .ok output =>
    if output.succeeded then
      let asked := (site.services.query .template Sql.Statement.listDatabases).run ran.2
      (.ended output asked.1, asked.2)
    else (.failed output, ran.2)

/-- The state in which the next attempt begins: the pause is over. -/
def next (site : Site σ) (c : Command) (interval : Nat) (state : σ × FileTree) : σ × FileTree :=
  (site.services.pause interval (once site c state).2.1, (once site c state).2.2)

/-- The state in which attempt number `k` begins, if the attempts go on for ever. -/
def before (site : Site σ) (c : Command) (interval k : Nat) (state : σ × FileTree) :
    σ × FileTree :=
  (next site c interval)^[k] state

/-- What comes of attempt number `k`. -/
def attemptAt (site : Site σ) (c : Command) (interval k : Nat) (state : σ × FileTree) : Attempt :=
  (once site c (before site c interval k state)).1

/-- The calls of the first `k` attempts, each with the pause behind it. -/
def calls (site : Site σ) (c : Command) (interval k : Nat) (state : σ × FileTree) : List Call :=
  (List.range k).flatMap fun j => (attemptAt site c interval j state).calls c ++ [.pause interval]

end Retry

/-- An attempt ends the retrying with what it decides, or leaves it to the attempts behind the next
pause. These know of it only how the utility failed. -/
theorem runAt_retryUtility_succ (u : DatabaseUtility) (database : String) (exhausted : Fault)
    (interval left : Nat) (last : Option Fault) (site : Site σ) (w : World σ) :
    let c := utilityCommand site.settings (u.line database)
    let tried := Retry.once site c (w.server, w.files)
    ∃ w', Went w (tried.1.calls c) tried.2 w' ∧
      runAt (retryUtility (u.line database) (u.settled database) exhausted interval (left + 1) last)
          site w =
        match tried.1.decides u database with
        | some result => (result, w')
        | none =>
          runAt (retryUtility (u.line database) (u.settled database) exhausted interval left
            (tried.1.failure? c)) site (waited site interval w') := by
  intro c tried
  have hutility := runAt_runUtility (u.line database) site w
  simp only [tried, Retry.once]
  rcases hran : (site.services.run c).run (w.server, w.files) with ⟨f | output, state⟩
  · rw [hran] at hutility
    exact ⟨_, .served w (.run c) state, runAt_bind_error hutility _⟩
  · rw [hran] at hutility
    rw [retryUtility, runAt_bind_ok hutility]
    cases hended : output.succeeded with
    | true =>
      -- Only here is the listing read.
      obtain ⟨w', hsettled, hwent⟩ :=
        runAt_settled u database site (w.served (.run c) state)
      simp only [CommandOutcome.of, hended, if_true, Option.isNone_none]
      refine ⟨w', (Went.served w (.run c) state).trans hwent, ?_⟩
      rw [runAt_bind, hsettled]
      simp only [World.served_server, World.served_files]
      rcases ((site.services.query .template Sql.Statement.listDatabases).run state).1
        with f | rows
      · rfl
      · simp only [Except.map, Attempt.decides]
        cases u.shows database rows with
        | true => rfl
        | false => rfl
    | false =>
      simp only [CommandOutcome.of, hended, Bool.false_eq_true, if_false, Option.isNone_some]
      exact ⟨_, .served w (.run c) state, rfl⟩

/-! ## Attempt after attempt -/

namespace Retry

section

variable (site : Site σ) (c : Command) (interval k : Nat) (state : σ × FileTree)

/-- The attempts behind the first one are those that begin when the first pause is over. -/
theorem before_succ :
    before site c interval (k + 1) state = before site c interval k (next site c interval state) :=
  Function.iterate_succ_apply _ _ _

/-- An attempt begins in the state that the attempt and the pause right before it leave. -/
theorem before_succ' :
    before site c interval (k + 1) state = next site c interval (before site c interval k state) :=
  Function.iterate_succ_apply' _ _ _

theorem attemptAt_succ :
    attemptAt site c interval (k + 1) state =
      attemptAt site c interval k (next site c interval state) := by
  rw [attemptAt, attemptAt, before_succ]

theorem calls_succ :
    calls site c interval (k + 1) state =
      (once site c state).1.calls c ++ [.pause interval] ++
        calls site c interval k (next site c interval state) := by
  simp only [calls, List.range_succ_eq_map, List.flatMap_cons, List.flatMap_map, attemptAt_succ]
  rfl

/-- The failure that the fault of exhausted attempts would be: that of the last attempt, or the one
that was there before them. -/
def lastFailure (last : Option Fault) : Nat → Option Fault
  | 0 => last
  | n + 1 => (attemptAt site c interval n state).failure? c

theorem lastFailure_succ (last : Option Fault) (n : Nat) :
    lastFailure site c interval state last (n + 1) =
      lastFailure site c interval (next site c interval state)
        ((once site c state).1.failure? c) n := by
  cases n with
  | zero => rfl
  | succ n => rw [lastFailure, lastFailure, attemptAt_succ]

/-- Whatever the last attempt was, the fault of exhausted attempts is one of a command. -/
theorem kind_getD_lastFailure (u : DatabaseUtility) (database : String) (attempts n : Nat) :
    ((lastFailure site c interval state none n).getD (u.exhausted database attempts)).kind =
      .commandFailed := by
  have hexhausted : (u.exhausted database attempts).kind = .commandFailed := by
    cases u with
    | create => rfl
    | drop => rfl
  cases n with
  | zero => exact hexhausted
  | succ n =>
    rw [lastFailure]
    cases attemptAt site c interval n state with
    | unstarted f => exact hexhausted
    | failed output => rfl
    | ended output listing => exact hexhausted

theorem went_next {w w' : World σ} {made : List Call}
    (hwent : Went w made (once site c state).2 w') :
    Went w (made ++ [.pause interval]) (next site c interval state) (waited site interval w') := by
  have hpause : Went w' [.pause interval] (next site c interval state)
      (waited site interval w') := by
    have hstate : (site.services.pause interval w'.server, w'.files) =
        next site c interval state := by
      rw [next, hwent.server, hwent.files]
    rw [← hstate]
    exact .served w' (.pause interval) _
  exact hwent.trans hpause

end

section

variable {u : DatabaseUtility} {database : String} {site : Site σ} {interval : Nat}

/-- The first attempt that decides ends the retrying, if there are attempts enough. The induction is
on the number of attempts before it. -/
theorem runAt_retryUtility_of_decided (exhausted : Fault) (k left : Nat) (last : Option Fault)
    (w : World σ) {result : Checked Unit} (hk : k < left)
    (hbefore : ∀ j < k, (attemptAt site (utilityCommand site.settings (u.line database)) interval j
      (w.server, w.files)).decides u database = none)
    (hdecides : (attemptAt site (utilityCommand site.settings (u.line database)) interval k
      (w.server, w.files)).decides u database = some result) :
    let c := utilityCommand site.settings (u.line database)
    let state := (w.server, w.files)
    ∃ w', runAt (retryUtility (u.line database) (u.settled database) exhausted interval left last)
        site w = (result, w') ∧
      Went w (calls site c interval k state ++ (attemptAt site c interval k state).calls c)
        (once site c (before site c interval k state)).2 w' := by
  intro c state
  induction k generalizing left last w with
  | zero =>
    obtain ⟨left, rfl⟩ : ∃ n, left = n + 1 := ⟨left - 1, by omega⟩
    obtain ⟨w', hwent, hrun⟩ :=
      runAt_retryUtility_succ u database exhausted interval left last site w
    have hfirst : (once site c state).1.decides u database = some result := hdecides
    rw [hfirst] at hrun
    exact ⟨w', hrun, hwent⟩
  | succ k ih =>
    obtain ⟨left, rfl⟩ : ∃ n, left = n + 1 := ⟨left - 1, by omega⟩
    obtain ⟨w₁, hwent, hrun⟩ :=
      runAt_retryUtility_succ u database exhausted interval left last site w
    have hfirst : (once site c state).1.decides u database = none := hbefore 0 (by omega)
    have hrested := went_next site c interval state hwent
    have hstate : ((waited site interval w₁).server, (waited site interval w₁).files) =
        next site c interval state := by
      rw [hrested.server, hrested.files]
    obtain ⟨w', hrest, hwent'⟩ := ih left ((once site c state).1.failure? c)
      (waited site interval w₁) (by omega)
      (fun j hj => by
        rw [hstate, ← attemptAt_succ]
        exact hbefore (j + 1) (by omega))
      (by
        rw [hstate, ← attemptAt_succ]
        exact hdecides)
    rw [hfirst] at hrun
    refine ⟨w', hrun.trans hrest, ?_⟩
    rw [hstate] at hwent'
    rw [calls_succ, attemptAt_succ, before_succ, List.append_assoc]
    exact hrested.trans hwent'

/-- Attempts that decide nothing are all made, each with a pause behind it. -/
theorem runAt_retryUtility_of_undecided (exhausted : Fault) (left : Nat) (last : Option Fault)
    (w : World σ)
    (hnone : ∀ j < left, (attemptAt site (utilityCommand site.settings (u.line database)) interval j
      (w.server, w.files)).decides u database = none) :
    let c := utilityCommand site.settings (u.line database)
    let state := (w.server, w.files)
    ∃ w', runAt (retryUtility (u.line database) (u.settled database) exhausted interval left last)
        site w = (.error ((lastFailure site c interval state last left).getD exhausted), w') ∧
      Went w (calls site c interval left state) (before site c interval left state) w' := by
  intro c state
  induction left generalizing last w with
  | zero => exact ⟨w, rfl, .refl w⟩
  | succ left ih =>
    obtain ⟨w₁, hwent, hrun⟩ :=
      runAt_retryUtility_succ u database exhausted interval left last site w
    have hfirst : (once site c state).1.decides u database = none := hnone 0 (by omega)
    have hrested := went_next site c interval state hwent
    have hstate : ((waited site interval w₁).server, (waited site interval w₁).files) =
        next site c interval state := by
      rw [hrested.server, hrested.files]
    obtain ⟨w', hrest, hwent'⟩ := ih ((once site c state).1.failure? c)
      (waited site interval w₁)
      (fun j hj => by
        rw [hstate, ← attemptAt_succ]
        exact hnone (j + 1) (by omega))
    rw [hfirst] at hrun
    rw [hstate] at hrest hwent'
    refine ⟨w', ?_, ?_⟩
    · rw [lastFailure_succ]
      exact hrun.trans hrest
    · rw [calls_succ, before_succ]
      exact hrested.trans hwent'

end

/-! ## How often everything is done -/

/-- How often some calls run the utility, read the listing and pause. -/
structure Tally (c : Command) (interval : Nat) (made : List Call) (runs reads pauses : Nat) :
    Prop where
  runs : made.count (.run c) = runs
  reads : made.count (.query .template Sql.Statement.listDatabases) = reads
  pauses : made.count (.pause interval) = pauses

theorem Tally.append {c : Command} {interval : Nat} {made more : List Call}
    {runs reads pauses runs' reads' pauses' : Nat} (h : Tally c interval made runs reads pauses)
    (h' : Tally c interval more runs' reads' pauses') :
    Tally c interval (made ++ more) (runs + runs') (reads + reads') (pauses + pauses') := by
  refine ⟨?_, ?_, ?_⟩
  · rw [List.count_append, h.runs, h'.runs]
  · rw [List.count_append, h.reads, h'.reads]
  · rw [List.count_append, h.pauses, h'.pauses]

/-- An attempt runs the utility once, and reads the listing if that ended well. -/
theorem tally_attempt (c : Command) (interval : Nat) (a : Attempt) :
    Tally c interval (a.calls c) 1 (if a.endedWell then 1 else 0) 0 := by
  unfold Attempt.calls
  cases a.endedWell with
  | true => exact ⟨by simp, by simp, by simp⟩
  | false => exact ⟨by simp, by simp, by simp⟩

theorem tally_pause (c : Command) (interval : Nat) : Tally c interval [.pause interval] 0 0 1 :=
  ⟨by simp, by simp, by simp⟩

section

variable (site : Site σ) (c : Command) (interval k : Nat) (state : σ × FileTree)

/-- The number of the first `k` attempts whose utility ended well. -/
def endedWell : Nat := (List.range k).countP fun j => (attemptAt site c interval j state).endedWell

theorem endedWell_succ :
    endedWell site c interval (k + 1) state =
      endedWell site c interval k state +
        if (attemptAt site c interval k state).endedWell then 1 else 0 := by
  simp only [endedWell, List.range_succ, List.countP_append, List.countP_singleton]

theorem tally_calls :
    Tally c interval (calls site c interval k state) k (endedWell site c interval k state) k := by
  induction k with
  | zero => exact ⟨rfl, rfl, rfl⟩
  | succ k ih =>
    have hcalls : calls site c interval (k + 1) state = calls site c interval k state ++
        ((attemptAt site c interval k state).calls c ++ [.pause interval]) := by
      simp only [calls, List.range_succ, List.flatMap_append, List.flatMap_singleton]
    rw [hcalls, endedWell_succ]
    exact ih.append ((tally_attempt c interval _).append (tally_pause c interval))

/-- The calls up to an attempt that decides: there is no pause behind that one. -/
theorem tally_decided :
    Tally c interval
      (calls site c interval k state ++ (attemptAt site c interval k state).calls c)
      (k + 1) (endedWell site c interval (k + 1) state) k := by
  rw [endedWell_succ]
  exact (tally_calls site c interval k state).append (tally_attempt c interval _)

end

end Retry

/-- Creating and removing a database, in full: for every server in every state. Attempts are
numbered from zero. The first one that decides anything ends it with what it decides; by then every
attempt has run the utility once, those whose utility ended well have read the listing once, and
there was a pause between each two. Where none of the attempts that the policy allows decides
anything, all of them are made, with a pause behind each, and the fault is the failure of the last
one, unless that one ended well or there was none. -/
theorem operation_retries_in_order (u : DatabaseUtility) (database : String) (site : Site σ)
    (w : World σ) :
    let policy := site.settings.databaseRetry
    let c := utilityCommand site.settings (u.line database)
    let state := (w.server, w.files)
    let attempt := fun k => Retry.attemptAt site c policy.interval k state
    let calls := fun k => Retry.calls site c policy.interval k state
    let endedWell := fun k => Retry.endedWell site c policy.interval k state
    let run := runAt (u.operation database) site w
    (∀ k < policy.attempts, ∀ result, (attempt k).decides u database = some result →
      (∀ j < k, (attempt j).decides u database = none) →
        run.1 = result ∧ run.2.calls = w.calls ++ (calls k ++ (attempt k).calls c) ∧
          Retry.Tally c policy.interval (calls k ++ (attempt k).calls c) (k + 1)
            (endedWell (k + 1)) k) ∧
    ((∀ k < policy.attempts, (attempt k).decides u database = none) →
      run.1 = .error ((Retry.lastFailure site c policy.interval state none policy.attempts).getD
          (u.exhausted database policy.attempts)) ∧
        run.2.calls = w.calls ++ calls policy.attempts ∧
        Retry.Tally c policy.interval (calls policy.attempts) policy.attempts
          (endedWell policy.attempts) policy.attempts) := by
  intro policy c state attempt calls endedWell run
  have hoperation : run = _ := u.runAt_operation database site w
  constructor
  · intro k hk result hdecides hbefore
    obtain ⟨w', hrun, hwent⟩ := Retry.runAt_retryUtility_of_decided
      (u.exhausted database policy.attempts) k policy.attempts none w hk hbefore hdecides
    rw [hoperation, hrun]
    exact ⟨rfl, hwent.calls, Retry.tally_decided site c policy.interval k state⟩
  · intro hnone
    obtain ⟨w', hrun, hwent⟩ := Retry.runAt_retryUtility_of_undecided
      (u.exhausted database policy.attempts) policy.attempts none w hnone
    rw [hoperation, hrun]
    exact ⟨rfl, hwent.calls, Retry.tally_calls site c policy.interval policy.attempts state⟩

end ClusterFixture.Op
