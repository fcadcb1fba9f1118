/-
What creating a database comes to where the listing of the server is late.

A utility does its work once: run again it ends badly, since the database is there already, or gone
already. The attempts read the listing only right after a run that ended well. So everything hangs on
what the listing shows in the attempt that did the work. If it does not show it yet, no later attempt
looks again, however long before the last one it would; every one of them runs the utility in vain.
-/

import ClusterFixture.Proofs.Comparison
import ClusterFixture.Proofs.Polling
import ClusterFixture.Proofs.Retrying

set_option autoImplicit false

namespace ClusterFixture.Op

variable {σ : Type}

/-! ## Servers on which a utility works once -/

/-- A server on which a utility does its work once, and whose listing shows it at a time of its own.
A run that finds the work undone does it and ends well, or ends badly and leaves it undone; one that
finds it done ends badly. Neither the listing nor a pause does or undoes anything. -/
structure WorksOnce (site : Site σ) (u : DatabaseUtility) (database : String)
    (done shown : σ → Bool) : Prop where
  first : ∀ server files, done server = false → ∃ output server' files',
    (site.services.run (utilityCommand site.settings (u.line database))).run (server, files) =
        (.ok output, (server', files')) ∧
      done server' = output.succeeded
  again : ∀ server files, done server = true → ∃ output server' files',
    (site.services.run (utilityCommand site.settings (u.line database))).run (server, files) =
        (.ok output, (server', files')) ∧
      output.succeeded = false ∧ done server' = true
  lists : ∀ server files, ∃ rows server' files',
    (site.services.query .template Sql.Statement.listDatabases).run (server, files) =
        (.ok rows, (server', files')) ∧
      u.shows database rows = shown server ∧ done server' = done server
  rests : ∀ ms server, done (site.services.pause ms server) = done server

namespace Retry

/-- The state in attempt number `k` when its utility has been run. -/
def ranAt (site : Site σ) (c : Command) (interval k : Nat) (state : σ × FileTree) : σ × FileTree :=
  ((site.services.run c).run (before site c interval k state)).2

/-- Attempt number `k` did the work of the utility. -/
def Works (site : Site σ) (u : DatabaseUtility) (database : String) (done : σ → Bool)
    (state : σ × FileTree) (k : Nat) : Prop :=
  let c := utilityCommand site.settings (u.line database)
  let interval := site.settings.databaseRetry.interval
  done (before site c interval k state).1 = false ∧ done (ranAt site c interval k state).1 = true

/-- The listing shows that work in attempt number `k`, when the utility has been run. -/
def Seen (site : Site σ) (u : DatabaseUtility) (database : String) (shown : σ → Bool)
    (state : σ × FileTree) (k : Nat) : Prop :=
  shown (ranAt site (utilityCommand site.settings (u.line database))
    site.settings.databaseRetry.interval k state).1 = true

section

variable {site : Site σ} {u : DatabaseUtility} {database : String} {done shown : σ → Bool}
  {state : σ × FileTree}

/-- One attempt on such a server: it finds the work done and fails; or it fails and leaves the work
undone; or it does the work and reads the listing. -/
theorem once_of_worksOnce (hserver : WorksOnce site u database done shown)
    (state : σ × FileTree) :
    let c := utilityCommand site.settings (u.line database)
    let ran := ((site.services.run c).run state).2
    (done state.1 = true ∧ done ran.1 = true ∧
      ∃ output, once site c state = (.failed output, ran)) ∨
    (done state.1 = false ∧ done ran.1 = false ∧
      ∃ output, once site c state = (.failed output, ran)) ∨
    (done state.1 = false ∧ done ran.1 = true ∧
      ∃ output rows after, once site c state = (.ended output (.ok rows), after) ∧
        u.shows database rows = shown ran.1 ∧ done after.1 = true) := by
  intro c ran
  have honce : ∀ output after, (site.services.run c).run state = (.ok output, after) →
      output.succeeded = false → once site c state = (.failed output, after) := by
    intro output after hrun hfailed
    simp only [once, hrun, hfailed, Bool.false_eq_true, if_false]
  cases hdone : done state.1 with
  | true =>
    left
    obtain ⟨output, server', files', hrun, hfailed, hstill⟩ := hserver.again state.1 state.2 hdone
    have hran : ran = (server', files') := congrArg Prod.snd hrun
    rw [hran]
    exact ⟨rfl, hstill, output, honce output _ hrun hfailed⟩
  | false =>
    right
    obtain ⟨output, server', files', hrun, heffect⟩ := hserver.first state.1 state.2 hdone
    have hran : ran = (server', files') := congrArg Prod.snd hrun
    rw [hran]
    -- The run ended well exactly if it did the work, and only then is the listing read.
    cases hended : output.succeeded with
    | false =>
      left
      exact ⟨rfl, heffect.trans hended, output, honce output _ hrun hended⟩
    | true =>
      right
      obtain ⟨rows, server'', files'', hquery, hshows, hkeeps⟩ := hserver.lists server' files'
      have hworked : done server' = true := heffect.trans hended
      refine ⟨rfl, hworked, output, rows, (server'', files''), ?_, hshows, hkeeps.trans hworked⟩
      have hrun' : (site.services.run c).run state = (.ok output, (server', files')) := hrun
      simp only [once, hrun', hended, if_true, hquery]

/-- What a utility has done by its run, it has done for the next attempt. -/
theorem done_before_succ (hserver : WorksOnce site u database done shown) (interval k : Nat)
    (state : σ × FileTree) :
    let c := utilityCommand site.settings (u.line database)
    done (before site c interval (k + 1) state).1 = done (ranAt site c interval k state).1 := by
  intro c
  rw [before_succ', next, hserver.rests]
  rcases once_of_worksOnce hserver (before site c interval k state) with
    ⟨_, _, output, honce⟩ | ⟨_, _, output, honce⟩ | ⟨_, hran, output, rows, after, honce, _, hafter⟩
  · rw [honce]
    rfl
  · rw [honce]
    rfl
  · rw [honce]
    exact hafter.trans hran.symm

/-- Work that is done stays done. -/
theorem done_before_of_le (hserver : WorksOnce site u database done shown) {interval j k : Nat}
    (hle : j ≤ k)
    (hdone : done (before site (utilityCommand site.settings (u.line database)) interval j
      state).1 = true) :
    done (before site (utilityCommand site.settings (u.line database)) interval k state).1 =
      true := by
  induction k, hle using Nat.le_induction with
  | base => exact hdone
  | succ k _ ih =>
    rw [done_before_succ hserver]
    -- Of the three kinds of attempts, only one begins with the work done.
    rcases once_of_worksOnce hserver (before site (utilityCommand site.settings (u.line database))
      interval k state) with ⟨_, hran, _⟩ | ⟨hundone, _⟩ | ⟨hundone, _⟩
    · exact hran
    · rw [ih] at hundone
      cases hundone
    · rw [ih] at hundone
      cases hundone

/-- No two attempts do the work. -/
theorem Works.unique (hserver : WorksOnce site u database done shown) {j k : Nat}
    (hj : Works site u database done state j) (hk : Works site u database done state k) :
    j = k := by
  have hlater : ∀ {a b}, Works site u database done state a →
      Works site u database done state b → ¬a < b := by
    intro a b ha hb hlt
    -- What attempt `a` did is done when `b` begins, so `b` has nothing left to do.
    have hdone := done_before_of_le hserver (Nat.succ_le_of_lt hlt)
      ((done_before_succ hserver site.settings.databaseRetry.interval a state).trans ha.2)
    rw [hb.1] at hdone
    cases hdone
  exact Nat.le_antisymm (Nat.le_of_not_lt (hlater hk hj)) (Nat.le_of_not_lt (hlater hj hk))

/-- An attempt decides, for success, exactly when it did the work and the listing shows it. -/
theorem decides_of_worksOnce (hserver : WorksOnce site u database done shown)
    (state : σ × FileTree) (k : Nat) :
    let attempt := attemptAt site (utilityCommand site.settings (u.line database))
      site.settings.databaseRetry.interval k state
    (Works site u database done state k ∧ Seen site u database shown state k ∧
        attempt.decides u database = some (.ok ())) ∨
      (¬(Works site u database done state k ∧ Seen site u database shown state k) ∧
        attempt.decides u database = none) := by
  intro attempt
  rcases once_of_worksOnce hserver (before site (utilityCommand site.settings (u.line database))
      site.settings.databaseRetry.interval k state) with
    ⟨hdone, _, output, honce⟩ | ⟨_, hundone, output, honce⟩ |
      ⟨hundone, hdone, output, rows, after, honce, hshows, _⟩
  · right
    refine ⟨fun h => absurd (h.1.1.symm.trans hdone) (by decide), ?_⟩
    simp only [attempt, attemptAt, honce, Attempt.decides]
  · right
    refine ⟨fun h => absurd (h.1.2.symm.trans hundone) (by decide), ?_⟩
    simp only [attempt, attemptAt, honce, Attempt.decides]
  · have hdecides : attempt.decides u database =
        if u.shows database rows then some (.ok ()) else none := by
      simp only [attempt, attemptAt, honce, Attempt.decides]
    rw [hshows] at hdecides
    by_cases hseen : Seen site u database shown state k
    · left
      exact ⟨⟨hundone, hdone⟩, hseen, hdecides.trans (if_pos hseen)⟩
    · right
      exact ⟨fun h => hseen h.2, hdecides.trans (if_neg hseen)⟩

end

end Retry

/-! ## How the attempts end -/

section

variable {site : Site σ} {u : DatabaseUtility} {database : String} {done shown : σ → Bool}

/-- Success comes in the attempt that did the work, if the listing shows it there. -/
theorem operation_ok_of_seen (hserver : WorksOnce site u database done shown) {w : World σ} {k : Nat}
    (hk : k < site.settings.databaseRetry.attempts)
    (hworks : Retry.Works site u database done (w.server, w.files) k)
    (hseen : Retry.Seen site u database shown (w.server, w.files) k) :
    (runAt (u.operation database) site w).1 = .ok () := by
  -- No attempt before decides anything, for that one would have done the work as well.
  have hbefore : ∀ j < k, (Retry.attemptAt site (utilityCommand site.settings (u.line database))
      site.settings.databaseRetry.interval j (w.server, w.files)).decides u database = none := by
    intro j hj
    rcases Retry.decides_of_worksOnce hserver (w.server, w.files) j with
      ⟨hearlier, _⟩ | ⟨_, hdecides⟩
    · exact absurd (hearlier.unique hserver hworks) (Nat.ne_of_lt hj)
    · exact hdecides
  have hdecides : (Retry.attemptAt site (utilityCommand site.settings (u.line database))
      site.settings.databaseRetry.interval k (w.server, w.files)).decides u database =
        some (.ok ()) := by
    rcases Retry.decides_of_worksOnce hserver (w.server, w.files) k with
      ⟨_, _, hdecides⟩ | ⟨hnot, _⟩
    · exact hdecides
    · exact absurd ⟨hworks, hseen⟩ hnot
  obtain ⟨w', hrun, _⟩ := Retry.runAt_retryUtility_of_decided
    (u.exhausted database site.settings.databaseRetry.attempts) k
    site.settings.databaseRetry.attempts none w hk hbefore hdecides
  rw [u.runAt_operation, hrun]

/-- Every other end is a failed command. -/
theorem operation_error_of_unseen (hserver : WorksOnce site u database done shown) {w : World σ}
    (hunseen : ∀ k < site.settings.databaseRetry.attempts,
      ¬(Retry.Works site u database done (w.server, w.files) k ∧
        Retry.Seen site u database shown (w.server, w.files) k)) :
    ∃ f, (runAt (u.operation database) site w).1 = .error f ∧ f.kind = .commandFailed := by
  have hnone : ∀ k < site.settings.databaseRetry.attempts,
      (Retry.attemptAt site (utilityCommand site.settings (u.line database))
        site.settings.databaseRetry.interval k (w.server, w.files)).decides u database = none := by
    intro k hk
    rcases Retry.decides_of_worksOnce hserver (w.server, w.files) k with
      ⟨hworks, hseen, _⟩ | ⟨_, hdecides⟩
    · exact absurd ⟨hworks, hseen⟩ (hunseen k hk)
    · exact hdecides
  obtain ⟨w', hrun, _⟩ := Retry.runAt_retryUtility_of_undecided
    (u.exhausted database site.settings.databaseRetry.attempts)
    site.settings.databaseRetry.attempts none w hnone
  rw [u.runAt_operation, hrun]
  exact ⟨_, rfl, Retry.kind_getD_lastFailure _ _ _ _ u database _ _⟩

/-- What comes of creating or removing a database on a server on which that works once. It succeeds
exactly when the listing shows the work in the attempt that did it, and any other end is a failed
command. That the work is done by one of the attempts and shown by the last one is not enough: this
makes it succeed exactly when the attempt that did the work already sees what the last one would. -/
theorem operation_ok_iff_seen_at_once (hserver : WorksOnce site u database done shown)
    (w : World σ) :
    let attempts := site.settings.databaseRetry.attempts
    let works := Retry.Works site u database done (w.server, w.files)
    let seen := Retry.Seen site u database shown (w.server, w.files)
    let result := (runAt (u.operation database) site w).1
    (result = .ok () ↔ ∃ k < attempts, works k ∧ seen k) ∧
      (result ≠ .ok () → ∃ f, result = .error f ∧ f.kind = .commandFailed) ∧
      (((∃ k < attempts, works k) ∧ seen (attempts - 1) → result = .ok ()) ↔
        ∀ k < attempts, works k → seen (attempts - 1) → seen k) := by
  intro attempts works seen result
  have hunseen : (¬∃ k < attempts, works k ∧ seen k) →
      ∃ f, result = .error f ∧ f.kind = .commandFailed := by
    intro hnone
    exact operation_error_of_unseen hserver fun k hk hboth => hnone ⟨k, hk, hboth⟩
  have hok : result = .ok () ↔ ∃ k < attempts, works k ∧ seen k := by
    constructor
    · intro hresult
      by_contra hnone
      obtain ⟨f, hf, _⟩ := hunseen hnone
      rw [hresult] at hf
      cases hf
    · rintro ⟨k, hk, hworks, hseen⟩
      exact operation_ok_of_seen hserver hk hworks hseen
  refine ⟨hok, fun hfailed => hunseen fun hboth => hfailed (hok.mpr hboth), ?_⟩
  constructor
  · intro hpromise k hk hworks hlast
    -- Success names an attempt that did the work and saw it, and only one did the work.
    obtain ⟨j, _, hworks', hseen⟩ := hok.mp (hpromise ⟨⟨k, hk, hworks⟩, hlast⟩)
    rw [hworks.unique hserver hworks']
    exact hseen
  · rintro hsoon ⟨⟨k, hk, hworks⟩, hlast⟩
    exact hok.mpr ⟨k, hk, hworks, hsoon k hk hworks hlast⟩

end

/-! ## A listing that is late -/

/-- A server with a clock, which remembers when a utility did its work. -/
structure LateServer where
  now : Nat := 0
  since : Option Nat := none
  deriving DecidableEq, Repr

namespace LateServer

/-- The work is done. -/
def done (s : LateServer) : Bool := s.since.isSome

/-- The work was done so many milliseconds ago or earlier. -/
def shown (delay : Nat) (s : LateServer) : Bool := s.since.any fun t => t + delay ≤ s.now

/-- A listing with or without the database, as the work of the utility is shown or not. -/
def listing (u : DatabaseUtility) (database : String) (shown : Bool) : List Sql.Row :=
  match u, shown with
  | .create, true => [.ofTexts [database]]
  | .create, false => []
  | .drop, true => []
  | .drop, false => [.ofTexts [database]]

theorem shows_listing (u : DatabaseUtility) (database : String) (shown : Bool) :
    u.shows database (listing u database shown) = shown := by
  cases u with
  | create => cases shown <;> simp [DatabaseUtility.shows, listing, Sql.Row.text?, Sql.Row.ofTexts]
  | drop => cases shown <;> simp [DatabaseUtility.shows, listing, Sql.Row.text?, Sql.Row.ofTexts]

/-- The services of a server whose listing is late by a delay. Its utility ends badly when it is run
again. -/
def services (u : DatabaseUtility) (database : String) (delay : Nat) : Services LateServer where
  execute _ _ := fun state => (.ok (), state)
  query _ _ := fun (s, files) => (.ok (listing u database (s.shown delay)), (s, files))
  run _ := fun (s, files) =>
    match s.since with
    | none => (.ok .silent, ({ s with since := some s.now }, files))
    | some _ => (.ok ⟨1, "", "already done"⟩, (s, files))
  pause ms s := { s with now := s.now + ms }

/-- A late server keeps its promises for every delay. -/
theorem worksOnce (u : DatabaseUtility) (database : String) (delay : Nat) :
    WorksOnce (dataSite (services u database delay)) u database done (shown delay) where
  first := by
    rintro ⟨now, _ | t⟩ files hundone
    · exact ⟨.silent, ⟨now, some now⟩, files, rfl, rfl⟩
    · cases hundone
  again := by
    rintro ⟨now, _ | t⟩ files hdone
    · cases hdone
    · exact ⟨⟨1, "", "already done"⟩, ⟨now, some t⟩, files, rfl, rfl, rfl⟩
  lists := fun s files =>
    ⟨listing u database (s.shown delay), s, files, rfl, shows_listing u database _, rfl⟩
  rests := fun _ _ => rfl

/-- A world whose late server has not done anything yet. -/
def start : World LateServer := ⟨{}, ⟨[]⟩, [], []⟩

/-- The first attempt does the work, at time zero; from then on nothing but the clock changes. -/
theorem before_succ (u : DatabaseUtility) (database : String) (delay : Nat) (c : Command)
    (interval k : Nat) :
    Retry.before (dataSite (services u database delay)) c interval (k + 1)
        (start.server, start.files) =
      (⟨(k + 1) * interval, some 0⟩, ⟨[]⟩) := by
  induction k with
  | zero =>
    have hfirst : Retry.before (dataSite (services u database delay)) c interval 1
        (start.server, start.files) = (⟨0 + interval, some 0⟩, ⟨[]⟩) := rfl
    rw [hfirst, Nat.zero_add, Nat.zero_add, Nat.one_mul]
  | succ k ih =>
    rw [Retry.before_succ', ih, Nat.succ_mul (k + 1)]
    rfl

/-- The attempts come every second, so the listing shows the work as soon as so many of them are
over as there are seconds in the delay. -/
theorem seen_iff (u : DatabaseUtility) (database : String) (delay k : Nat) :
    Retry.Seen (dataSite (services u database delay)) u database (shown delay)
        (start.server, start.files) k ↔
      delay ≤ k * 1000 := by
  cases k with
  | zero =>
    have hran : (Retry.ranAt (dataSite (services u database delay))
        (utilityCommand (dataSite (services u database delay)).settings (u.line database))
        (dataSite (services u database delay)).settings.databaseRetry.interval 0
        (start.server, start.files)).1 = ⟨0, some 0⟩ := rfl
    rw [Retry.Seen, hran]
    simp [shown]
  | succ k =>
    have hran : (Retry.ranAt (dataSite (services u database delay))
        (utilityCommand (dataSite (services u database delay)).settings (u.line database))
        (dataSite (services u database delay)).settings.databaseRetry.interval (k + 1)
        (start.server, start.files)).1 = ⟨(k + 1) * 1000, some 0⟩ := by
      rw [Retry.ranAt, before_succ]
      rfl
    rw [Retry.Seen, hran]
    simp [shown]

end LateServer

/-- A listing that is not late shows the database at once, and creating it succeeds. -/
theorem operation_ok_iff_seen_at_once_prompt :
    WorksOnce (dataSite (LateServer.services .create "sales" 0)) .create "sales" LateServer.done
        (LateServer.shown 0) ∧
      (runAt (createDatabase "sales") (dataSite (LateServer.services .create "sales" 0))
        LateServer.start).1 = .ok () := by
  have hserver := LateServer.worksOnce .create "sales" 0
  refine ⟨hserver, (operation_ok_iff_seen_at_once hserver LateServer.start).1.mpr ?_⟩
  exact ⟨0, by decide, ⟨rfl, rfl⟩, rfl⟩

/-- Half a second of delay is too much for attempts that come every second: the first of ten creates
the database, or removes it, the listing shows that from the second one on, and still the operation
fails. -/
theorem operation_fails_on_late_listing :
    (Retry.Works (dataSite (LateServer.services .create "sales" 500)) .create "sales" LateServer.done
        (LateServer.start.server, LateServer.start.files) 0 ∧
      Retry.Seen (dataSite (LateServer.services .create "sales" 500)) .create "sales"
        (LateServer.shown 500) (LateServer.start.server, LateServer.start.files) 9 ∧
      (runAt (createDatabase "sales") (dataSite (LateServer.services .create "sales" 500))
        LateServer.start).1 ≠ .ok ()) ∧
    Retry.Works (dataSite (LateServer.services .drop "sales" 500)) .drop "sales" LateServer.done
        (LateServer.start.server, LateServer.start.files) 0 ∧
      Retry.Seen (dataSite (LateServer.services .drop "sales" 500)) .drop "sales"
        (LateServer.shown 500) (LateServer.start.server, LateServer.start.files) 9 ∧
      (runAt (dropDatabase "sales") (dataSite (LateServer.services .drop "sales" 500))
        LateServer.start).1 ≠ .ok () := by
  have hfails : ∀ u : DatabaseUtility,
      (runAt (u.operation "sales") (dataSite (LateServer.services u "sales" 500))
        LateServer.start).1 ≠ .ok () := by
    intro u
    have hserver := LateServer.worksOnce u "sales" 500
    have hfirst : Retry.Works (dataSite (LateServer.services u "sales" 500)) u "sales"
        LateServer.done (LateServer.start.server, LateServer.start.files) 0 := ⟨rfl, rfl⟩
    obtain ⟨f, hf, _⟩ := operation_error_of_unseen (w := LateServer.start) hserver fun k _ hboth => by
      -- Only the first attempt does the work, and it is too early for the listing.
      have hzero := hboth.1.unique hserver hfirst
      subst hzero
      exact absurd ((LateServer.seen_iff u "sales" 500 0).mp hboth.2) (by decide)
    rw [hf]
    intro hok
    cases hok
  have hlast : ∀ u : DatabaseUtility, Retry.Seen (dataSite (LateServer.services u "sales" 500)) u
      "sales" (LateServer.shown 500) (LateServer.start.server, LateServer.start.files) 9 :=
    fun u => (LateServer.seen_iff u "sales" 500 9).mpr (by decide)
  exact ⟨⟨⟨rfl, rfl⟩, hlast .create, hfails .create⟩, ⟨rfl, rfl⟩, hlast .drop, hfails .drop⟩

end ClusterFixture.Op
