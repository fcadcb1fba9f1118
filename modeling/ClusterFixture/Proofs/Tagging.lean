/-
What the sink of the log is given, write by write.

A log changes by events: a scenario begins, the scenario ends, a record is written. Every write says
that all bytes were taken and gives the sink one chunk. So whoever writes until no byte is left
writes once, whether or not the chunk is longer than the record.
-/

import ClusterFixture.Telemetry.Scenario
import Mathlib.Data.List.Induction

set_option autoImplicit false

namespace ClusterFixture.Telemetry

open ClusterFixture.Text (Bytes)

/-! ## The scenario in a record -/

/-- A line takes a scenario exactly if it is an object that has none yet. -/
theorem tagged?_eq_none_iff (line scenario : String) :
    tagged? line scenario = none ↔
      ∀ members, Json.read? line = some (.object members) →
        (Json.lookup? scenarioKey members).isSome = true := by
  unfold tagged?
  split
  · next members hread =>
    constructor
    · intro h members' hread'
      rw [hread] at hread'
      obtain rfl : members = members' := by simpa using hread'
      by_contra hnone
      rw [if_neg hnone] at h
      cases h
    · intro h
      rw [if_pos (h members hread)]
  · next hother =>
    exact iff_of_true rfl fun members hread => absurd hread (hother members)

/-- A line that took the scenario is an object that had none. -/
theorem exists_members_of_tagged? {line scenario out : String}
    (h : tagged? line scenario = some out) :
    ∃ members, Json.read? line = some (.object members) ∧
      Json.lookup? scenarioKey members = none := by
  by_contra hnone
  have htagged : tagged? line scenario = none := by
    rw [tagged?_eq_none_iff]
    intro members hread
    by_contra hfree
    exact hnone ⟨members, hread, by simpa using hfree⟩
  rw [htagged] at h
  cases h

/-! ## Events -/

/-- What happens to a log. -/
inductive Event where
  | begin (scenario : String)
  | finish
  | write (bytes : Bytes)
  deriving DecidableEq, Repr

/-- Whether an event is a write. -/
def Event.isWrite : Event → Bool
  | .write _ => true
  | _ => false

namespace Log

/-- The log after one more event. -/
def happen (l : Log) : Event → Log
  | .begin scenario => l.begin scenario
  | .finish => l.finish
  | .write bytes => (l.write bytes).2

/-- The log after events, from the beginning. -/
def after (events : List Event) : Log := events.foldl happen {}

@[simp] theorem after_nil : after [] = {} := rfl

@[simp] theorem after_concat (events : List Event) (e : Event) :
    after (events ++ [e]) = (after events).happen e := by
  rw [after, List.foldl_append]
  rfl

/-! ## One event -/

/-- The chunk that a record becomes under a scenario. -/
def chunk (l : Log) (bytes : Bytes) : Bytes := (taggedRecord? l.scenario bytes).getD bytes

theorem write_eq (l : Log) (bytes : Bytes) :
    l.write bytes = (bytes.length, ⟨l.scenario, l.chunks ++ [l.chunk bytes]⟩) := by
  unfold write chunk
  cases taggedRecord? l.scenario bytes <;> rfl

theorem chunks_happen (l : Log) (e : Event) :
    (l.happen e).chunks = l.chunks ++ match e with
      | .write bytes => [l.chunk bytes]
      | _ => [] := by
  cases e with
  | begin scenario => exact (List.append_nil _).symm
  | finish => exact (List.append_nil _).symm
  | write bytes => rw [happen, write_eq]

/-- Whoever writes until no byte is left writes a record once. -/
theorem writeAll_eq (l : Log) (bytes : Bytes) :
    l.writeAll bytes = some (if bytes = [] then l else (l.write bytes).2) := by
  rw [writeAll]
  by_cases hempty : bytes = []
  · rw [if_pos hempty, if_pos hempty]
  · have htaken : (l.write bytes).1 = bytes.length := by rw [write_eq]
    have hlength : bytes.length ≠ 0 := by simpa using hempty
    rw [if_neg hempty, if_neg hempty]
    simp only [htaken, if_neg hlength, List.drop_length]
    rw [writeAll, if_pos rfl]

end Log

/-! ## Runs -/

/-- The scenario that the latest beginning started, if none has ended since. -/
def Running (before : List Event) (scenario : String) : Prop :=
  ∃ earlier later, before = earlier ++ .begin scenario :: later ∧
    ∀ e ∈ later, e.isWrite = true

/-- One more write leaves a scenario running, any other event does not. -/
theorem running_concat_iff (before : List Event) (e : Event) (scenario : String) :
    Running (before ++ [e]) scenario ↔
      e = .begin scenario ∨ (e.isWrite = true ∧ Running before scenario) := by
  constructor
  · rintro ⟨earlier, later, hsplit, hwrites⟩
    rcases List.eq_nil_or_concat later with rfl | ⟨later', e', rfl⟩
    · left
      exact List.singleton_inj.mp (List.append_inj' hsplit rfl).2
    · right
      have hcut : before ++ [e] = (earlier ++ .begin scenario :: later') ++ [e'] := by
        simpa using hsplit
      obtain ⟨hbefore, he⟩ := List.append_inj' hcut rfl
      have hlast : e = e' := List.singleton_inj.mp he
      refine ⟨hlast ▸ hwrites e' (by simp), earlier, later', hbefore, ?_⟩
      intro e'' hmem
      exact hwrites e'' (by simp [hmem])
  · rintro (rfl | ⟨hwrite, earlier, later, rfl, hwrites⟩)
    · exact ⟨before, [], rfl, by simp⟩
    · refine ⟨earlier, later ++ [e], by simp, ?_⟩
      intro e' hmem
      rcases List.mem_append.mp hmem with hlater | hlast
      · exact hwrites e' hlater
      · rw [List.mem_singleton.mp hlast]
        exact hwrite

theorem scenario_after_eq_some_iff (before : List Event) (scenario : String) :
    (Log.after before).scenario = some scenario ↔ Running before scenario := by
  -- The induction is on the last event: it starts or ends a scenario, or leaves it as it is.
  induction before using List.reverseRecOn with
  | nil =>
    refine iff_of_false (by simp) ?_
    rintro ⟨earlier, later, hsplit, -⟩
    simp at hsplit
  | append_singleton before e ih =>
    rw [Log.after_concat, running_concat_iff, ← ih]
    cases e with
    | begin other => simp [Log.happen, Log.begin, Event.isWrite]
    | finish => simp [Log.happen, Log.finish, Event.isWrite]
    | write bytes => simp [Log.happen, Log.write_eq, Event.isWrite]

/-- The chunk that a record becomes behind events: the line with the running scenario, where there is
one and the record is a line that takes it, and the record itself in every other case. -/
inductive Chunk (before : List Event) (bytes : Bytes) : Bytes → Prop where
  | tagged {scenario line out : String} {members : List (String × Json)} :
      Running before scenario → Text.ofUtf8? bytes = some line →
      Json.read? line = some (.object members) → Json.lookup? scenarioKey members = none →
      tagged? line scenario = some out → Chunk before bytes (Text.utf8 out)
  | plain : (∀ scenario line members, Running before scenario → Text.ofUtf8? bytes = some line →
      Json.read? line = some (.object members) →
      (Json.lookup? scenarioKey members).isSome = true) → Chunk before bytes bytes

/-- What a log makes of a record is the chunk that the events before it call for. -/
theorem chunk_after (before : List Event) (bytes : Bytes) :
    Chunk before bytes ((Log.after before).chunk bytes) := by
  rw [Log.chunk, taggedRecord?]
  cases hscenario : (Log.after before).scenario with
  | none =>
    refine .plain fun scenario _ _ hrunning => ?_
    rw [← scenario_after_eq_some_iff, hscenario] at hrunning
    cases hrunning
  | some scenario =>
    have hrunning : Running before scenario := (scenario_after_eq_some_iff _ _).mp hscenario
    cases hline : Text.ofUtf8? bytes with
    | none =>
      refine .plain fun _ _ _ _ hother => ?_
      rw [hline] at hother
      cases hother
    | some line =>
      simp only [bind, Option.bind_some]
      cases htagged : tagged? line scenario with
      | none =>
        refine .plain fun scenario' line' members hother hline' hread => ?_
        rw [hline] at hline'
        obtain rfl : line = line' := Option.some.inj hline'
        exact (tagged?_eq_none_iff line scenario).mp htagged members hread
      | some out =>
        obtain ⟨members, hread, hfree⟩ := exists_members_of_tagged? htagged
        exact .tagged hrunning hline hread hfree htagged

/-! ## All writes -/

/-- The number of writes among events. -/
def writes (events : List Event) : Nat := events.countP Event.isWrite

theorem length_chunks_after (events : List Event) :
    (Log.after events).chunks.length = writes events := by
  induction events using List.reverseRecOn with
  | nil => rfl
  | append_singleton before e ih =>
    rw [Log.after_concat, Log.chunks_happen, List.length_append, ih, writes, writes,
      List.countP_append]
    cases e <;> rfl

/-- What the sink was given stays as it was. -/
theorem chunks_after_prefix (before rest : List Event) :
    (Log.after before).chunks <+: (Log.after (before ++ rest)).chunks := by
  induction rest using List.reverseRecOn with
  | nil => simp
  | append_singleton more e ih =>
    rw [← List.append_assoc, Log.after_concat, Log.chunks_happen]
    exact ih.trans (List.prefix_append _ _)

/-- Any run of events. The sink has as many chunks as there were writes. Each write says that all
bytes were taken, and right behind the chunks of the writes before it, it leaves the one chunk that
these events call for. Who writes until no byte is left has written the record once, or not at all
where it is empty. -/
theorem one_chunk_for_each_write (events : List Event) :
    (Log.after events).chunks.length = writes events ∧
    (∀ before bytes rest, events = before ++ .write bytes :: rest →
      ((Log.after before).write bytes).1 = bytes.length ∧
      ∃ chunk, Chunk before bytes chunk ∧
        (Log.after before).chunks ++ [chunk] <+: (Log.after events).chunks) ∧
    ∀ bytes, (Log.after events).writeAll bytes =
      some (if bytes = [] then Log.after events else Log.after (events ++ [.write bytes])) := by
  refine ⟨length_chunks_after events, ?_, ?_⟩
  · rintro before bytes rest rfl
    refine ⟨by rw [Log.write_eq], (Log.after before).chunk bytes, chunk_after before bytes, ?_⟩
    have hprefix := chunks_after_prefix (before ++ [.write bytes]) rest
    rw [Log.after_concat, Log.chunks_happen, List.append_assoc, List.singleton_append] at hprefix
    exact hprefix
  · intro bytes
    rw [Log.writeAll_eq, Log.after_concat]
    rfl

end ClusterFixture.Telemetry
