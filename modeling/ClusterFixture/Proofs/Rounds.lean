/-
The calls of a wait, round by round.

A wait asks in rounds. Every round asks the queries of the transition in order, stops early at the
first answer that holds no count, and is followed by a pause if another one is to come. The file
first says what a server answers that is asked in such rounds for ever, without regard to what the
counts show: `replies` is one round and `Wait.round` is any later one. A wait is then a number of
these rounds, and what it answers can be read off the last of them.

The step is one probe, `runAt_probe`; the run is `sight_notedProbe`, by induction on the rounds.
-/

import ClusterFixture.Proofs.Waiting

set_option autoImplicit false

namespace ClusterFixture.Op

open ClusterFixture.Cluster (Transition Endpoint)

variable {σ : Type}

/-! ## One round -/

/-- A query and what the server answered to it. -/
structure Reply where
  statement : String
  answer : Checked (List Sql.Row)

/-- The count that a reply holds, if it holds one. -/
def Reply.count (r : Reply) : Checked Int := countOf r.statement r.answer

/-- The call that asked for a reply. -/
def Reply.call (target : Sql.Target) (r : Reply) : Call := .query target r.statement

/-- A query failed, answered no row, or its first row does not begin with a count. -/
def Reply.Fails (r : Reply) : Prop :=
  (∃ f, r.answer = .error f) ∨ r.answer = .ok [] ∨
    ∃ row rest f, r.answer = .ok (row :: rest) ∧ row.integer 0 = .error f

theorem Reply.fails_iff (r : Reply) : r.Fails ↔ ∃ f, r.count = .error f := by
  unfold Reply.count
  constructor
  · rintro (⟨f, hanswer⟩ | hanswer | ⟨row, rest, f, hanswer, hrow⟩)
    · exact ⟨f, by rw [hanswer]; rfl⟩
    · exact ⟨noAnswer r.statement, by rw [hanswer]; rfl⟩
    · exact ⟨f, by rw [hanswer]; exact hrow⟩
  · rintro ⟨f, hcount⟩
    rcases hanswer : r.answer with f' | rows
    · exact .inl ⟨f', hanswer⟩
    · rcases rows with _ | ⟨row, rest⟩
      · exact .inr (.inl hanswer)
      · rw [hanswer] at hcount
        exact .inr (.inr ⟨row, rest, f, hanswer, hcount⟩)

/-- What a server answers in one round, and the state that it is left in. Queries are asked in
order, up to the first whose answer holds no count. -/
def replies (site : Site σ) (target : Sql.Target) :
    List String → σ × FileTree → List Reply × (σ × FileTree)
  | [], state => ([], state)
  | statement :: rest, state =>
    let asked := (site.services.query target statement).run state
    match countOf statement asked.1 with
    | .error _ => ([⟨statement, asked.1⟩], asked.2)
    | .ok _ =>
      let more := replies site target rest asked.2
      (⟨statement, asked.1⟩ :: more.1, more.2)

/-- A round went through all of its queries, and these are their counts. -/
def Shows (queries : List String) (round : List Reply) (counts : List Int) : Prop :=
  round.map Reply.statement = queries ∧ round.map Reply.count = counts.map .ok

/-- A round broke off at a query whose answer holds no count; all before it answered one. -/
def BreaksOff (queries : List String) (round : List Reply) : Prop :=
  ∃ counted last, round = counted ++ [last] ∧ round.map Reply.statement <+: queries ∧
    (∀ r ∈ counted, ∃ n, r.count = .ok n) ∧ last.Fails

/-- A round goes through all of its queries or breaks off. -/
theorem replies_shows_or_breaksOff (site : Site σ) (target : Sql.Target) (queries : List String)
    (state : σ × FileTree) :
    (∃ counts, Shows queries (replies site target queries state).1 counts) ∨
      BreaksOff queries (replies site target queries state).1 := by
  induction queries generalizing state with
  | nil => exact .inl ⟨[], rfl, rfl⟩
  | cons statement rest ih =>
    rcases hasked : (site.services.query target statement).run state with ⟨answer, state'⟩
    rcases hcount : countOf statement answer with f | n
    · -- Nothing is asked behind a query without a count.
      have hround : replies site target (statement :: rest) state =
          ([⟨statement, answer⟩], state') := by
        simp only [replies, hasked, hcount]
      rw [hround]
      refine .inr ⟨[], ⟨statement, answer⟩, rfl, ⟨rest, rfl⟩, by simp, ?_⟩
      exact (Reply.fails_iff _).mpr ⟨f, hcount⟩
    · have hround : replies site target (statement :: rest) state =
          (⟨statement, answer⟩ :: (replies site target rest state').1,
            (replies site target rest state').2) := by
        simp only [replies, hasked, hcount]
      rw [hround]
      rcases ih state' with ⟨counts, hstatements, hcounts⟩ |
        ⟨counted, last, hsplit, hprefix, hall, hlast⟩
      · left
        refine ⟨n :: counts, ?_, ?_⟩
        · rw [List.map_cons, hstatements]
        · rw [List.map_cons, hcounts]
          exact congrArg (· :: counts.map Except.ok) hcount
      · right
        refine ⟨⟨statement, answer⟩ :: counted, last, ?_, ?_, ?_, hlast⟩
        · rw [hsplit, List.cons_append]
        · rw [List.map_cons, List.cons_prefix_cons]
          exact ⟨rfl, hprefix⟩
        · intro r hr
          rcases List.mem_cons.mp hr with rfl | hr
          · exact ⟨n, hcount⟩
          · exact hall r hr

/-! ## What a probe answers -/

/-- The counts of a round, or the fault of its first reply without one. -/
def countsOf (round : List Reply) : Checked (List Int) := round.mapM Reply.count

theorem mapError_eq_ok_iff {α : Type} {answer : Checked α} {change : Fault → Fault} {value : α} :
    answer.mapError change = .ok value ↔ answer = .ok value := by
  cases answer <;> simp [Except.mapError]

theorem countsOf_cons (r : Reply) (rest : List Reply) :
    countsOf (r :: rest) =
      match r.count with
      | .error f => .error f
      | .ok n => (countsOf rest).map (n :: ·) := by
  rw [countsOf, List.mapM_cons]
  rcases r.count with f | n
  · rfl
  · unfold countsOf
    rcases rest.mapM Reply.count with f | counts <;> rfl

/-- A round that went through shows the counts that it answers. -/
theorem Shows.countsOf {queries : List String} {round : List Reply} {counts : List Int}
    (h : Shows queries round counts) : countsOf round = .ok counts := by
  have hcounts := h.2
  clear h
  induction round generalizing counts with
  | nil =>
    have hnil : counts = [] := by simpa using hcounts.symm
    rw [hnil]
    rfl
  | cons r rest ih =>
    rcases counts with _ | ⟨n, counts⟩
    · simp at hcounts
    · simp only [List.map_cons, List.cons.injEq] at hcounts
      rw [countsOf_cons, hcounts.1, ih hcounts.2]
      rfl

/-- A round answers the fault of its last reply, if all replies before that hold counts. -/
theorem countsOf_concat_of_error {counted : List Reply} {last : Reply} {f : Fault}
    (hcounted : ∀ r ∈ counted, ∃ n, r.count = .ok n) (hlast : last.count = .error f) :
    countsOf (counted ++ [last]) = .error f := by
  induction counted with
  | nil => rw [List.nil_append, countsOf_cons, hlast]
  | cons r rest ih =>
    obtain ⟨n, hn⟩ := hcounted r (by simp)
    rw [List.cons_append, countsOf_cons, hn, ih fun q hq => hcounted q (by simp [hq])]
    rfl

/-- A round that broke off answers a fault. -/
theorem BreaksOff.countsOf {queries : List String} {round : List Reply}
    (h : BreaksOff queries round) : ∃ f, countsOf round = .error f := by
  obtain ⟨counted, last, rfl, -, hcounted, hlast⟩ := h
  obtain ⟨f, hf⟩ := (Reply.fails_iff last).mp hlast
  exact ⟨f, countsOf_concat_of_error hcounted hf⟩

/-- The queries of a probe ask one round, and answer its counts. The induction is on the queries;
each is asked in the state that the one before it left. -/
theorem runAt_counts (target : Sql.Target) (queries : List String) (site : Site σ) (w : World σ) :
    ∃ w', runAt (queries.mapM (probeCount target)) site w =
        (countsOf (replies site target queries (w.server, w.files)).1, w') ∧
      Went w ((replies site target queries (w.server, w.files)).1.map (Reply.call target))
        (replies site target queries (w.server, w.files)).2 w' := by
  induction queries generalizing w with
  | nil => exact ⟨w, rfl, .refl w⟩
  | cons statement rest ih =>
    rcases hasked : (site.services.query target statement).run (w.server, w.files)
      with ⟨answer, state'⟩
    have hfirst := runAt_probeCount target statement site w
    rw [hasked] at hfirst
    have hwent : Went w [.query target statement] state'
        ((w.noted (sending "querying" target statement)).served (.query target statement)
          state') := ⟨rfl, rfl, rfl⟩
    rw [runAt_mapM_cons, hfirst]
    rcases hcount : countOf statement answer with f | n
    · simp only [replies, hasked, hcount]
      refine ⟨_, ?_, hwent⟩
      have hreply : Reply.count ⟨statement, answer⟩ = .error f := hcount
      rw [countsOf_cons, hreply]
    · simp only [replies, hasked, hcount]
      have hreply : Reply.count ⟨statement, answer⟩ = .ok n := hcount
      obtain ⟨w', hrest, hwent'⟩ := ih
        ((w.noted (sending "querying" target statement)).served (.query target statement) state')
      refine ⟨w', ?_, hwent.trans hwent'⟩
      rw [hrest, countsOf_cons, hreply]
      simp only [World.served_server, World.served_files]
      rcases countsOf (replies site target rest state').1 with f | counts <;> rfl

/-- A noted probe does the same, and leaves a record. -/
theorem runAt_notedProbe (transition : Transition) (target : Sql.Target) (attempt : Nat)
    (site : Site σ) (w : World σ) :
    ∃ w', runAt (notedProbe transition target attempt) site w =
        (countsOf (replies site target transition.queries (w.server, w.files)).1, w') ∧
      Went w
        ((replies site target transition.queries (w.server, w.files)).1.map (Reply.call target))
        (replies site target transition.queries (w.server, w.files)).2 w' := by
  obtain ⟨w', hprobe, hwent⟩ := runAt_counts target transition.queries site w
  rw [notedProbe, runAt_bind, probe, hprobe]
  -- A probe without counts leaves no record.
  rcases countsOf (replies site target transition.queries (w.server, w.files)).1 with f | counts
  · exact ⟨w', rfl, hwent⟩
  · exact ⟨_, rfl, hwent.noted _⟩

/-! ## Round after round -/

namespace Wait

/-- The state of a server after a pause between two rounds. -/
def rested (site : Site σ) (state : σ × FileTree) : σ × FileTree :=
  (site.services.pause site.settings.transitionPoll.interval state.1, state.2)

/-- What a server answers in round number `k` of a wait that goes on for ever, and the state that it
is left in. -/
def rounds (site : Site σ) (transition : Transition) (endpoint : Endpoint) :
    Nat → σ × FileTree → List Reply × (σ × FileTree)
  | 0, state => replies site endpoint.target transition.queries state
  | k + 1, state =>
    rounds site transition endpoint k
      (rested site (replies site endpoint.target transition.queries state).2)

/-- The replies of round number `k`. -/
def round (site : Site σ) (transition : Transition) (endpoint : Endpoint) (k : Nat)
    (state : σ × FileTree) : List Reply :=
  (rounds site transition endpoint k state).1

/-- The calls of the first rounds up to number `k`, with a pause between each two. -/
def calls (site : Site σ) (transition : Transition) (endpoint : Endpoint) (k : Nat)
    (state : σ × FileTree) : List Call :=
  ((List.range k).flatMap fun j =>
      (round site transition endpoint j state).map (Reply.call endpoint.target) ++
        [.pause site.settings.transitionPoll.interval]) ++
    (round site transition endpoint k state).map (Reply.call endpoint.target)

theorem calls_succ (site : Site σ) (transition : Transition) (endpoint : Endpoint) (k : Nat)
    (state : σ × FileTree) :
    calls site transition endpoint (k + 1) state =
      (replies site endpoint.target transition.queries state).1.map
          (Reply.call endpoint.target) ++
        [.pause site.settings.transitionPoll.interval] ++
        calls site transition endpoint k
          (rested site (replies site endpoint.target transition.queries state).2) := by
  simp only [calls, List.range_succ_eq_map, List.flatMap_cons, List.flatMap_map,
    List.append_assoc]
  rfl

/-- Every round goes through or breaks off, as it is one round of queries in some state. -/
theorem shows_or_breaksOff (site : Site σ) (transition : Transition) (endpoint : Endpoint)
    (k : Nat) (state : σ × FileTree) :
    (∃ counts, Shows transition.queries (round site transition endpoint k state) counts) ∨
      BreaksOff transition.queries (round site transition endpoint k state) := by
  induction k generalizing state with
  | zero => exact replies_shows_or_breaksOff site endpoint.target transition.queries state
  | succ k ih => exact ih _

/-- What the rounds of a wait see are the counts of its rounds, and they make the calls of those
rounds. The induction is on the rounds; each begins in the state that the pause before it left. -/
theorem sight_notedProbe (site : Site σ) (transition : Transition) (endpoint : Endpoint)
    (attempt k : Nat) (w : World σ) :
    ∃ w', Poll.sight (waited site site.settings.transitionPoll.interval)
          (fun j => notedProbe transition endpoint.target j site) attempt k w =
        (countsOf (round site transition endpoint k (w.server, w.files)), w') ∧
      Went w (calls site transition endpoint k (w.server, w.files))
        (rounds site transition endpoint k (w.server, w.files)).2 w' := by
  induction k generalizing attempt w with
  | zero => exact runAt_notedProbe transition endpoint.target attempt site w
  | succ k ih =>
    obtain ⟨w₁, hprobe, hwent⟩ :=
      runAt_notedProbe transition endpoint.target attempt site w
    obtain ⟨w', hsight, hwent'⟩ :=
      ih (attempt + 1) (waited site site.settings.transitionPoll.interval w₁)
    have hstate : ((waited site site.settings.transitionPoll.interval w₁).server,
        (waited site site.settings.transitionPoll.interval w₁).files) =
        rested site (replies site endpoint.target transition.queries (w.server, w.files)).2 := by
      rw [rested, ← hwent.server, ← hwent.files]
      rfl
    have hpause : Went w₁ [.pause site.settings.transitionPoll.interval]
        (rested site (replies site endpoint.target transition.queries (w.server, w.files)).2)
        (waited site site.settings.transitionPoll.interval w₁) := by
      rw [← hstate]
      exact ⟨rfl, rfl, rfl⟩
    rw [hstate] at hsight hwent'
    refine ⟨w', ?_, ?_⟩
    · rw [Poll.sight]
      have hafter : ((notedProbe transition endpoint.target attempt site).run.run w).2 = w₁ :=
        congrArg Prod.snd hprobe
      rw [hafter]
      exact hsight
    · rw [calls_succ]
      exact (hwent.trans hpause).trans hwent'

/-- The rounds of a wait see the same, as the record that the wait begins with changes nothing for
them. -/
theorem sight_waitRecord (site : Site σ) (transition : Transition) (endpoint : Endpoint) (k : Nat)
    (w : World σ) :
    ∃ w', Poll.sight (waited site site.settings.transitionPoll.interval)
          (fun j => notedProbe transition endpoint.target j site) 0 k
          (w.noted (waitRecord transition endpoint)) =
        (countsOf (round site transition endpoint k (w.server, w.files)), w') ∧
      w'.calls = w.calls ++ calls site transition endpoint k (w.server, w.files) := by
  obtain ⟨w', hsight, hwent⟩ :=
    sight_notedProbe site transition endpoint 0 k (w.noted (waitRecord transition endpoint))
  exact ⟨w', hsight, hwent.calls⟩

/-- The rounds answer counts exactly when they go through and show them. -/
theorem countsOf_eq_ok_iff {site : Site σ} {transition : Transition} {endpoint : Endpoint}
    {k : Nat} {state : σ × FileTree} {counts : List Int} :
    countsOf (round site transition endpoint k state) = .ok counts ↔
      Shows transition.queries (round site transition endpoint k state) counts := by
  constructor
  · intro hcounts
    rcases shows_or_breaksOff site transition endpoint k state with ⟨seen, hshows⟩ | hbreaks
    · rw [hshows.countsOf] at hcounts
      cases hcounts
      exact hshows
    · obtain ⟨f, hf⟩ := hbreaks.countsOf
      rw [hf] at hcounts
      cases hcounts
  · intro hshows
    exact hshows.countsOf

/-! ## The end of a wait -/

/-- Whether a round settles a wait: it broke off, or its counts show the transition. -/
def settles (site : Site σ) (transition : Transition) (endpoint : Endpoint) (k : Nat)
    (state : σ × FileTree) : Bool :=
  Poll.settles transition.isReached (countsOf (round site transition endpoint k state))

theorem settles_of_shows {site : Site σ} {transition : Transition} {endpoint : Endpoint} {k : Nat}
    {state : σ × FileTree} {counts : List Int}
    (h : Shows transition.queries (round site transition endpoint k state) counts) :
    settles site transition endpoint k state = transition.isReached counts := by
  unfold settles
  rw [h.countsOf]
  rfl

theorem settles_of_breaksOff {site : Site σ} {transition : Transition} {endpoint : Endpoint}
    {k : Nat} {state : σ × FileTree}
    (h : BreaksOff transition.queries (round site transition endpoint k state)) :
    settles site transition endpoint k state = true := by
  obtain ⟨f, hf⟩ := h.countsOf
  unfold settles
  rw [hf]
  rfl

/-- A round that does not settle a wait has gone through, to counts that do not show the
transition. -/
theorem shows_of_unsettled {site : Site σ} {transition : Transition} {endpoint : Endpoint}
    {k : Nat} {state : σ × FileTree}
    (h : settles site transition endpoint k state = false) :
    ∃ counts, Shows transition.queries (round site transition endpoint k state) counts ∧
      transition.isReached counts = false := by
  rcases shows_or_breaksOff site transition endpoint k state with ⟨counts, hshows⟩ | hbreaks
  · exact ⟨counts, hshows, by rw [← settles_of_shows hshows]; exact h⟩
  · rw [settles_of_breaksOff hbreaks] at h
    cases h

/-- A wait ends with the first round that settles it. -/
theorem runAt_waitFor_of_settled (transition : Transition) (endpoint : Endpoint) (site : Site σ)
    (w : World σ) (k : Nat) (hk : k ≤ site.settings.transitionPoll.attempts)
    (hbefore : ∀ j < k, settles site transition endpoint j (w.server, w.files) = false)
    (hsettled : settles site transition endpoint k (w.server, w.files) = true) :
    ∃ w', runAt (waitFor transition endpoint) site w =
        ((countsOf (round site transition endpoint k (w.server, w.files))).mapError
          (waitingFault transition), w') ∧
      w'.calls = w.calls ++ calls site transition endpoint k (w.server, w.files) := by
  obtain ⟨w₁, hlast, hcalls⟩ := sight_waitRecord site transition endpoint k w
  have hpoll := Poll.untilDone_of_settled site.settings.transitionPoll (waited site)
    (fun j => notedProbe transition endpoint.target j site) transition.isReached
    (w.noted (waitRecord transition endpoint)) k hk
    (fun j hj => by
      obtain ⟨_, hsight, _⟩ := sight_waitRecord site transition endpoint j w
      rw [hsight]
      exact hbefore j hj)
    (by rw [hlast]; exact hsettled)
  rw [hlast] at hpoll
  have hrun : runAt (Poll.untilDone site.settings.transitionPoll pause
      (notedProbe transition endpoint.target) transition.isReached) site
      (w.noted (waitRecord transition endpoint)) =
      ((countsOf (round site transition endpoint k (w.server, w.files))).map
        fun counts => ⟨counts, k⟩, w₁) := by
    rw [runAt, untilDone_at]
    exact hpoll
  rw [runAt_waitFor, hrun]
  rcases countsOf (round site transition endpoint k (w.server, w.files)) with f | counts
  · exact ⟨w₁, rfl, hcalls⟩
  · exact ⟨_, rfl, hcalls⟩

/-- A wait that no round settles makes all rounds that it may, and fails. -/
theorem runAt_waitFor_of_unsettled (transition : Transition) (endpoint : Endpoint)
    (site : Site σ) (w : World σ)
    (hnone : ∀ j ≤ site.settings.transitionPoll.attempts,
      settles site transition endpoint j (w.server, w.files) = false) :
    ∃ w', runAt (waitFor transition endpoint) site w =
        (.error (waitingFault transition (Poll.exhausted site.settings.transitionPoll)), w') ∧
      w'.calls = w.calls ++ calls site transition endpoint
        site.settings.transitionPoll.attempts (w.server, w.files) := by
  obtain ⟨w₁, hlast, hcalls⟩ :=
    sight_waitRecord site transition endpoint site.settings.transitionPoll.attempts w
  have hpoll := Poll.untilDone_of_unsettled site.settings.transitionPoll (waited site)
    (fun j => notedProbe transition endpoint.target j site) transition.isReached
    (w.noted (waitRecord transition endpoint))
    (fun j hj => by
      obtain ⟨_, hsight, _⟩ := sight_waitRecord site transition endpoint j w
      rw [hsight]
      exact hnone j hj)
  rw [hlast] at hpoll
  have hrun : runAt (Poll.untilDone site.settings.transitionPoll pause
      (notedProbe transition endpoint.target) transition.isReached) site
      (w.noted (waitRecord transition endpoint)) =
      (.error (Poll.exhausted site.settings.transitionPoll), w₁) := by
    rw [runAt, untilDone_at]
    exact hpoll
  rw [runAt_waitFor, hrun]
  exact ⟨w₁, rfl, hcalls⟩

/-- How a wait ends, told by its last round. -/
theorem exists_last_round (transition : Transition) (endpoint : Endpoint) (site : Site σ)
    (w : World σ) :
    let policy := site.settings.transitionPoll
    let round := fun k => round site transition endpoint k (w.server, w.files)
    let run := runAt (waitFor transition endpoint) site w
    ∃ last ≤ policy.attempts,
      run.2.calls = w.calls ++ calls site transition endpoint last (w.server, w.files) ∧
      (∀ k < last, ∃ counts, Shows transition.queries (round k) counts ∧
        transition.isReached counts = false) ∧
      ((∃ counts, Shows transition.queries (round last) counts ∧
          (last < policy.attempts → transition.isReached counts = true)) ∨
        BreaksOff transition.queries (round last)) ∧
      ∀ counts, run.1 = .ok counts ↔
        Shows transition.queries (round last) counts ∧ transition.isReached counts = true := by
  intro policy round run
  have hround : ∀ k, (∃ counts, Shows transition.queries (round k) counts) ∨
      BreaksOff transition.queries (round k) := by
    intro k
    exact shows_or_breaksOff site transition endpoint k (w.server, w.files)
  rcases Poll.exists_first_or_none
    (fun k => settles site transition endpoint k (w.server, w.files)) policy.attempts
    with ⟨last, hlast, hsettled, hbefore⟩ | hnone
  · obtain ⟨w', hrun, hcalls⟩ :=
      runAt_waitFor_of_settled transition endpoint site w last hlast hbefore hsettled
    have hreached : ∀ counts, Shows transition.queries (round last) counts →
        transition.isReached counts = true := by
      intro counts hshows
      rw [← settles_of_shows hshows]
      exact hsettled
    refine ⟨last, hlast, ?_, fun k hk => shows_of_unsettled (hbefore k hk), ?_, ?_⟩
    · simp only [run, hrun]
      exact hcalls
    · rcases hround last with ⟨counts, hshows⟩ | hbreaks
      · exact .inl ⟨counts, hshows, fun _ => hreached counts hshows⟩
      · exact .inr hbreaks
    · intro counts
      simp only [run, hrun]
      rw [mapError_eq_ok_iff, countsOf_eq_ok_iff]
      exact ⟨fun hshows => ⟨hshows, hreached counts hshows⟩, And.left⟩
  · obtain ⟨w', hrun, hcalls⟩ := runAt_waitFor_of_unsettled transition endpoint site w hnone
    refine ⟨policy.attempts, Nat.le_refl _, ?_,
      fun k hk => shows_of_unsettled (hnone k (Nat.le_of_lt hk)), ?_, ?_⟩
    · simp only [run, hrun]
      exact hcalls
    · obtain ⟨counts, hshows, _⟩ := shows_of_unsettled (hnone _ (Nat.le_refl _))
      exact .inl ⟨counts, hshows, fun hless => absurd hless (Nat.lt_irrefl _)⟩
    · intro counts
      simp only [run, hrun]
      constructor
      · intro hok
        cases hok
      · rintro ⟨hshows, hreached⟩
        have hunsettled := hnone _ (Nat.le_refl _)
        rw [settles_of_shows hshows, hreached] at hunsettled
        cases hunsettled

end Wait

/-- A wait for change tracking that answers a number has seen it as its only count, and it is
positive. -/
theorem waitForChangeTracking_eq_ok {endpoint : Endpoint} {site : Site σ} {w w' : World σ} {n : Int}
    (h : runAt (waitForChangeTracking endpoint) site w = (.ok n, w')) :
    runAt (waitFor .changeTracking endpoint) site w = (.ok [n], w') ∧ 0 < n := by
  rw [waitForChangeTracking] at h
  obtain ⟨counts, w₁, hwait, hpure⟩ := runAt_bind_eq_ok.mp h
  obtain ⟨_, _, _, _, _, hreached, _⟩ := waitFor_eq_ok hwait
  rw [runAt_pure] at hpure
  cases hpure
  -- Only a single count can show this transition.
  match counts, hreached with
  | [tracking], hreached => exact ⟨hwait, of_decide_eq_true hreached⟩

/-- A wait, in full: for every server and every state, in rounds of the queries of the transition,
all sent to the template database at the endpoint and outside utility mode, with a pause between
each two. There is at most one round more than the policy repeats. Each but the last goes through
and does not show the transition; the last goes through or breaks off at a query that failed, that
answered no row or no count, and it is the last one allowed unless it settles the wait. Counts are
answered exactly when the last round goes through with them and they show the transition. A number
of segments that track changes is the one count of the last round, and positive. -/
theorem waitFor_asks_in_rounds (transition : Transition) (endpoint : Endpoint) (site : Site σ)
    (w : World σ) :
    let policy := site.settings.transitionPoll
    let round := fun k => Wait.round site transition endpoint k (w.server, w.files)
    let asked := fun k => (round k).map fun r => Call.query endpoint.target r.statement
    let run := runAt (waitFor transition endpoint) site w
    endpoint.target = ⟨"template1", some endpoint.host, some endpoint.port, some endpoint.user,
        false⟩ ∧
      (∃ last ≤ policy.attempts,
        run.2.calls = w.calls ++
          (((List.range last).flatMap fun k => asked k ++ [.pause policy.interval]) ++
            asked last) ∧
        (∀ k < last, ∃ counts, Shows transition.queries (round k) counts ∧
          transition.isReached counts = false) ∧
        ((∃ counts, Shows transition.queries (round last) counts ∧
            (last < policy.attempts → transition.isReached counts = true)) ∨
          BreaksOff transition.queries (round last)) ∧
        ∀ counts, run.1 = .ok counts ↔
          Shows transition.queries (round last) counts ∧ transition.isReached counts = true) ∧
      ∀ n, (runAt (waitForChangeTracking endpoint) site w).1 = .ok n →
        0 < n ∧ ∃ last ≤ policy.attempts,
          (runAt (waitForChangeTracking endpoint) site w).2.calls =
            w.calls ++ Wait.calls site .changeTracking endpoint last (w.server, w.files) ∧
          Shows Transition.changeTracking.queries
            (Wait.round site .changeTracking endpoint last (w.server, w.files)) [n] := by
  intro policy round asked run
  refine ⟨rfl, Wait.exists_last_round transition endpoint site w, fun n hn => ?_⟩
  obtain ⟨hwait, hpositive⟩ := waitForChangeTracking_eq_ok (Prod.ext hn rfl)
  obtain ⟨last, hlast, hcalls, -, -, hanswer⟩ :=
    Wait.exists_last_round .changeTracking endpoint site w
  rw [hwait] at hcalls hanswer
  exact ⟨hpositive, last, hlast, hcalls, ((hanswer [n]).mp rfl).1⟩

end ClusterFixture.Op
