/-
What it means that a wait for resynchronization has ended.

The wait compares two counts, and takes them by two statements. Nothing keeps the segments from
changing their modes in between, so the counts may belong to two different states of the cluster.
The file puts the wait before a cluster with a timeline: a state for every instant, statements that
run at instants of their own, and a server that keeps the instants of what it ran. Against that
record it says exactly what an ended wait tells about the cluster, and shows a timeline on which it
tells nothing: a segment that tracks changes all the time, while another one catches up.
-/

import ClusterFixture.Proofs.Counting
import ClusterFixture.Proofs.Waiting

set_option autoImplicit false

namespace ClusterFixture.Cluster

open ClusterFixture.Sql.Statement (resyncCount notInSyncCount)

/-! ## States of a cluster -/

/-- The number of segments that are catching up, by their mode codes. -/
def catchingUp (modes : List String) : Nat := modes.countP (· == "r")

/-- The number of segments that disagree with their mirrors. -/
def outOfSync (modes : List String) : Nat := modes.countP (· != "s")

/-- All segments that disagree with their mirrors are catching up. -/
def AllCatchingUp (modes : List String) : Prop := ∀ mode ∈ modes, mode ≠ "s" → mode = "r"

/-- In one state the two counts agree exactly when all that disagree are catching up. -/
theorem allCatchingUp_iff (modes : List String) :
    AllCatchingUp modes ↔ catchingUp modes = outOfSync modes := by
  unfold AllCatchingUp catchingUp outOfSync
  rw [countP_eq_countP_iff]
  · simp only [beq_iff_eq, bne_iff_ne]
  · intro mode _ hmode
    have hr : mode = "r" := by simpa using hmode
    rw [hr]
    rfl

/-! ## Timelines -/

/-- A cluster whose segments change their modes as time goes on, and how long statements and pauses
take. Instants are numbers; what happens between two readings happens at the instants between. -/
structure Timeline where
  /-- The mode codes of all segments at an instant. -/
  modes : Nat → List String
  /-- The instant at which a statement runs that is sent at an instant. -/
  runs : String → Nat → Nat
  /-- The instant at which a pause of so many milliseconds ends. -/
  wakes : Nat → Nat → Nat
  sent_le_runs : ∀ statement t, t ≤ runs statement t
  le_wakes : ∀ ms t, t ≤ wakes ms t
  /-- A count fits into the integers of the server. -/
  few : ∀ t, (modes t).length < Number.twoTo 63

/-- When a statement was sent and when it ran. -/
structure Reading where
  statement : String
  sent : Nat
  ran : Nat
  deriving DecidableEq, Repr

/-- The state of a server on a timeline: the present, and all that it has run. -/
structure Clock where
  now : Nat := 0
  readings : List Reading := []
  deriving DecidableEq, Repr

namespace Timeline

/-- What a statement answers that runs in a state of the cluster. -/
def answer (modes : List String) (statement : String) : List Sql.Row :=
  if statement = resyncCount then [.ofCount (catchingUp modes)]
  else if statement = notInSyncCount then [.ofCount (outOfSync modes)]
  else []

/-- The clock after a statement. -/
def tick (line : Timeline) (statement : String) (clock : Clock) : Clock :=
  ⟨line.runs statement clock.now,
    clock.readings ++ [⟨statement, clock.now, line.runs statement clock.now⟩]⟩

/-- The services of a cluster on a timeline: a query counts the state at the instant it runs. -/
def services (line : Timeline) : Services Clock where
  execute _ statement := fun (clock, files) => (.ok (), (line.tick statement clock, files))
  query _ statement := fun (clock, files) =>
    (.ok (answer (line.modes (line.runs statement clock.now)) statement),
      (line.tick statement clock, files))
  run _ := fun st => (.ok .silent, st)
  pause ms clock := { clock with now := line.wakes ms clock.now }

/-- A site whose cluster has a timeline. -/
def siteOf (line : Timeline) (site : Site Clock) : Site Clock :=
  { site with services := line.services }

end Timeline

end ClusterFixture.Cluster

namespace ClusterFixture.Op

open ClusterFixture.Cluster
open ClusterFixture.Sql.Statement (resyncCount notInSyncCount)

/-! ## One probe -/

theorem countOf_resyncCount (line : Timeline) (t : Nat) :
    countOf resyncCount (.ok (Timeline.answer (line.modes t) resyncCount)) =
      .ok (catchingUp (line.modes t) : Int) := by
  rw [Timeline.answer, if_pos rfl]
  exact Sql.Row.integer_ofCount _ (lt_of_le_of_lt List.countP_le_length (line.few t))

theorem countOf_notInSyncCount (line : Timeline) (t : Nat) :
    countOf notInSyncCount (.ok (Timeline.answer (line.modes t) notInSyncCount)) =
      .ok (outOfSync (line.modes t) : Int) := by
  rw [Timeline.answer, if_neg (by decide), if_pos rfl]
  exact Sql.Row.integer_ofCount _ (lt_of_le_of_lt List.countP_le_length (line.few t))

/-- A probe for resynchronization counts twice, at the two instants that the timeline gives its
statements, and leaves the clock there. -/
theorem runAt_probe_resync (line : Timeline) (site : Site Clock) (target : Sql.Target)
    (w : World Clock) :
    let first := line.runs resyncCount w.server.now
    let last := line.runs notInSyncCount first
    (runAt (probe .resync target) (line.siteOf site) w).1 =
        .ok [(catchingUp (line.modes first) : Int), (outOfSync (line.modes last) : Int)] ∧
      (runAt (probe .resync target) (line.siteOf site) w).2.server =
        line.tick notInSyncCount (line.tick resyncCount w.server) := by
  intro first last
  have hfirst : ∀ w : World Clock, runAt (probeCount target resyncCount) (line.siteOf site) w =
      (.ok (catchingUp (line.modes (line.runs resyncCount w.server.now)) : Int),
        (w.noted (sending "querying" target resyncCount)).served (.query target resyncCount)
          (line.tick resyncCount w.server, w.files)) := by
    intro w
    rw [runAt_probeCount, ← countOf_resyncCount]
    rfl
  have hlast : ∀ w : World Clock, runAt (probeCount target notInSyncCount) (line.siteOf site) w =
      (.ok (outOfSync (line.modes (line.runs notInSyncCount w.server.now)) : Int),
        (w.noted (sending "querying" target notInSyncCount)).served
          (.query target notInSyncCount) (line.tick notInSyncCount w.server, w.files)) := by
    intro w
    rw [runAt_probeCount, ← countOf_notInSyncCount]
    rfl
  -- The second count starts from the clock that the first one left.
  have hprobe : probe .resync target =
      ([resyncCount, notInSyncCount].mapM (probeCount target) : Op Clock (List Int)) := rfl
  rw [hprobe, runAt_mapM_cons, hfirst]
  simp only []
  rw [runAt_mapM_cons, hlast]
  exact ⟨rfl, rfl⟩

/-! ## What an ended wait tells -/

/-- A wait for resynchronization that has ended compared the segments catching up at one instant
with those out of sync at a later one, the two readings of its last probe. So all that disagreed
were catching up at some instant of that probe exactly when the two counts of one instant agree
there; at the first reading this means that as many segments were out of sync as at the second one,
and at the second reading that as many were catching up as at the first one. -/
theorem waitForResync_verdict (line : Timeline) (site : Site Clock) (endpoint : Endpoint)
    (w : World Clock)
    (h : (runAt (waitForResync endpoint) (line.siteOf site) w).1 = .ok ()) :
    ∃ earlier sent first last,
      (runAt (waitForResync endpoint) (line.siteOf site) w).2.server.readings =
        earlier ++ [⟨resyncCount, sent, first⟩, ⟨notInSyncCount, first, last⟩] ∧
      sent ≤ first ∧ first ≤ last ∧
      catchingUp (line.modes first) = outOfSync (line.modes last) ∧
      ((∃ t, sent ≤ t ∧ t ≤ last ∧ AllCatchingUp (line.modes t)) ↔
        ∃ t, sent ≤ t ∧ t ≤ last ∧ catchingUp (line.modes t) = outOfSync (line.modes t)) ∧
      (AllCatchingUp (line.modes first) ↔
        outOfSync (line.modes first) = outOfSync (line.modes last)) ∧
      (AllCatchingUp (line.modes last) ↔
        catchingUp (line.modes first) = catchingUp (line.modes last)) := by
  rw [waitForResync, runAt_discard] at h ⊢
  rcases hwait : runAt (waitFor .resync endpoint) (line.siteOf site) w with ⟨_ | counts, w'⟩
  · rw [hwait] at h
    cases h
  · obtain ⟨before, after, r₁, r₂, hprobe, hreached, rfl⟩ := waitFor_eq_ok hwait
    obtain ⟨hcounts, hserver⟩ := runAt_probe_resync line site endpoint.target before
    rw [hprobe] at hcounts hserver
    simp only [Except.ok.injEq] at hcounts
    subst hcounts
    -- The transition was shown, so the two counts of the last probe are equal.
    have hequal : catchingUp (line.modes (line.runs resyncCount before.server.now)) =
        outOfSync (line.modes (line.runs notInSyncCount
          (line.runs resyncCount before.server.now))) := by
      have hint := of_decide_eq_true hreached
      exact Int.ofNat_inj.mp hint
    refine ⟨before.server.readings, before.server.now, _, _, ?_, line.sent_le_runs _ _,
      line.sent_le_runs _ _, hequal, ?_, ?_, ?_⟩
    · have hreadings : after.server.readings = _ := congrArg Clock.readings hserver
      simpa [Timeline.tick] using hreadings
    · simp only [allCatchingUp_iff]
    · rw [allCatchingUp_iff, hequal, eq_comm]
    · rw [allCatchingUp_iff, ← hequal, eq_comm]

/-! ## Two timelines -/

/-- A timeline on which nothing changes: one segment agrees with its mirror, one catches up. -/
def steady : Timeline where
  modes _ := ["s", "r"]
  runs _ t := t + 1
  wakes ms t := t + ms
  sent_le_runs _ t := Nat.le_succ t
  le_wakes ms t := Nat.le_add_right t ms
  few _ := by decide

/-- A timeline on which a segment tracks changes all the time. Another one is caught up with by the
time that the second count of a probe is taken. -/
def overtaken : Timeline where
  modes t := if t = 0 then ["r", "c"] else ["s", "c"]
  runs statement t := if statement = notInSyncCount then t + 1 else t
  wakes ms t := t + ms
  sent_le_runs statement t := by
    split
    · exact Nat.le_succ t
    · exact Nat.le_refl t
  le_wakes ms t := Nat.le_add_right t ms
  few t := by
    have htwo : 2 < Number.twoTo 63 := by decide
    split <;> exact htwo

/-- A wait ends after its first probe, if the counts of that probe agree. -/
theorem waitForResync_of_first (line : Timeline) (site : Site Clock) (endpoint : Endpoint)
    (w : World Clock)
    (hequal : catchingUp (line.modes (line.runs resyncCount w.server.now)) =
      outOfSync (line.modes (line.runs notInSyncCount (line.runs resyncCount w.server.now)))) :
    (runAt (waitForResync endpoint) (line.siteOf site) w).1 = .ok () ∧
      (runAt (waitForResync endpoint) (line.siteOf site) w).2.server =
        line.tick notInSyncCount (line.tick resyncCount w.server) := by
  obtain ⟨hcounts, hserver⟩ := runAt_probe_resync line site endpoint.target
    (w.noted (waitRecord .resync endpoint))
  rcases hprobe : runAt (probe .resync endpoint.target) (line.siteOf site)
    (w.noted (waitRecord .resync endpoint)) with ⟨counts, after⟩
  rw [hprobe] at hcounts hserver
  simp only [World.noted_server] at hcounts hserver
  subst hcounts
  obtain ⟨r₁, r₂, hwait⟩ := waitFor_of_first hprobe (by simp [Transition.isReached, hequal])
  rw [waitForResync, runAt_discard, hwait]
  exact ⟨rfl, hserver⟩

/-- A site with the usual settings; what serves it depends on the timeline. -/
def plainSite : Site Clock where
  services := steady.services
  settings := .new ⟨"localhost", 15432, "template1", "gpadmin", none, {}⟩ "/data/master"

/-- The endpoint that both timelines are watched from. -/
def plainEndpoint : Endpoint := plainSite.settings.connection.endpoint

/-- A world in which nothing has happened. -/
def freshWorld : World Clock := ⟨{}, {}, [], []⟩

/-- On the steady timeline the wait ends, and its verdict is right at the first reading. -/
theorem waitForResync_verdict_steady :
    (runAt (waitForResync plainEndpoint) (steady.siteOf plainSite) freshWorld).1 = .ok () ∧
      ∃ first, AllCatchingUp (steady.modes first) := by
  have hrun := waitForResync_of_first steady plainSite plainEndpoint freshWorld (by decide)
  obtain ⟨_, _, first, _, _, _, _, _, _, hfirst, _⟩ :=
    waitForResync_verdict steady plainSite plainEndpoint freshWorld hrun.1
  exact ⟨hrun.1, first, hfirst.mpr rfl⟩

/-- On the other timeline the wait ends as well, although one segment tracks changes at every
instant. -/
theorem waitForResync_overtaken :
    (runAt (waitForResync plainEndpoint) (overtaken.siteOf plainSite) freshWorld).1 = .ok () ∧
      (runAt (waitForResync plainEndpoint) (overtaken.siteOf plainSite)
        freshWorld).2.server.readings = [⟨resyncCount, 0, 0⟩, ⟨notInSyncCount, 0, 1⟩] ∧
      ∀ t, ¬AllCatchingUp (overtaken.modes t) := by
  have hrun := waitForResync_of_first overtaken plainSite plainEndpoint freshWorld (by decide)
  refine ⟨hrun.1, ?_, ?_⟩
  · rw [hrun.2]
    decide
  · intro t hall
    have hc : "c" ∈ overtaken.modes t := by
      simp only [overtaken]
      split <;> simp
    have hr := hall "c" hc (by decide)
    revert hr
    decide

end ClusterFixture.Op
