/-
What scripted servers answer, from what was registered and what was asked.

A rule gives its answers in turn and stays at the last one. It does so by forgetting the answers that
it has given, until one is left. The statements here speak of the answers as they were registered and
of how many texts the rule has answered; `Rule.turned` joins the two: after `n` answers the first
`min n m` of the registered ones are gone, where `m` is the index of the last one.

Statements and commands have rules of their own, and the texts of one kind take no turns of the
other. All about turns is proved once, for any kind of answers; a history of a server is then read
twice, as what concerns its statements and as what concerns its commands.
-/

import ClusterFixture.Proofs.Running
import ClusterFixture.Script
import Mathlib.Data.List.Induction

set_option autoImplicit false

namespace ClusterFixture

variable {α : Type}

/-! ## One rule -/

namespace Rule

/-- Answer number `n` of a rule: those registered in turn, and the last of them ever after. -/
def turn (r : Rule α) (otherwise : α) (n : Nat) : Checked α :=
  r.answers[min n (r.answers.length - 1)]?.getD (.ok otherwise)

/-- What is left of a rule after `n` answers. -/
def turned (r : Rule α) (n : Nat) : Rule α :=
  ⟨r.pattern, r.answers.drop (min n (r.answers.length - 1))⟩

@[simp] theorem turned_zero (r : Rule α) : r.turned 0 = r := by
  rw [turned, Nat.zero_min, List.drop_zero]

/-- What is left of a rule gives the next answer in turn, and one answer less is left of it. -/
theorem next_turned (r : Rule α) (otherwise : α) (n : Nat) :
    (r.turned n).next otherwise = (r.turn otherwise n, r.turned (n + 1)) := by
  obtain ⟨pattern, _ | ⟨a, rest⟩⟩ := r
  · simp [next, turn, turned]
  · have hlength : (a :: rest).length - 1 = rest.length := rfl
    simp only [turn, turned, hlength]
    rcases Nat.lt_or_ge n rest.length with hmore | hlast
    · -- An answer is behind this one, so this one goes.
      have hn : n < (a :: rest).length := Nat.lt_succ_of_lt hmore
      have hn' : n + 1 < (a :: rest).length := Nat.succ_lt_succ hmore
      rw [Nat.min_eq_left (Nat.le_of_lt hmore), Nat.min_eq_left hmore, List.drop_eq_getElem_cons hn,
        List.drop_eq_getElem_cons hn', List.getElem?_eq_getElem hn]
      rfl
    · -- Only the last answer is left, and it stays.
      have hn : rest.length < (a :: rest).length := Nat.lt_succ_self _
      have hnone : (a :: rest).drop (rest.length + 1) = [] := List.drop_length
      rw [Nat.min_eq_right hlast, Nat.min_eq_right (Nat.le_succ_of_le hlast),
        List.drop_eq_getElem_cons hn, hnone, List.getElem?_eq_getElem hn]
      rfl

/-! ## The first rule -/

/-- The number of the first rule meant for a text. -/
def first? (rules : List (Rule α)) (text : String) : Option Nat :=
  rules.findIdx? (·.applies text)

/-- Answers do not count for which rule is the first one, patterns do. -/
theorem first?_congr {rules rules' : List (Rule α)}
    (h : rules.map Rule.pattern = rules'.map Rule.pattern) (text : String) :
    first? rules text = first? rules' text := by
  have hpattern : ∀ rules : List (Rule α),
      first? rules text = (rules.map Rule.pattern).findIdx? (Text.contains text) := by
    intro rules
    rw [List.findIdx?_map]
    rfl
  rw [hpattern, hpattern, h]

/-- A rule behind the others is the first one only where none of the others is meant. -/
theorem first?_append (rules more : List (Rule α)) (text : String) :
    first? (rules ++ more) text =
      (first? rules text).or ((first? more text).map (· + rules.length)) :=
  List.findIdx?_append

theorem first?_lt {rules : List (Rule α)} {text : String} {k : Nat}
    (h : first? rules text = some k) : k < rules.length :=
  (List.findIdx?_eq_some_iff_getElem.mp h).1

/-- Rules behind the others never take the place of one of them. -/
theorem first?_append_eq_some_iff {rules : List (Rule α)} {k : Nat} (hk : k < rules.length)
    (more : List (Rule α)) (text : String) :
    first? (rules ++ more) text = some k ↔ first? rules text = some k := by
  rw [first?_append]
  -- Numbers of rules behind the others start at the length of the list.
  cases first? rules text with
  | some j => rw [Option.some_or]
  | none =>
    cases first? more text with
    | none => rfl
    | some j =>
      simp only [Option.none_or, Option.map_some, Option.some.injEq, reduceCtorEq, iff_false]
      omega

/-- A text that no rule is meant for changes no rule. -/
theorem answer_of_first?_eq_none {rules : List (Rule α)} {text : String}
    (h : first? rules text = none) (otherwise : α) :
    answer otherwise rules text = (.ok otherwise, rules) := by
  have hnone : answer? otherwise text rules = none := by
    induction rules with
    | nil => rfl
    | cons r rest ih =>
      simp only [first?, List.findIdx?_cons] at h
      cases hr : r.applies text with
      | true => simp [hr] at h
      | false =>
        rw [hr, if_neg Bool.false_ne_true, Option.map_eq_none_iff] at h
        simp only [answer?, hr, Bool.false_eq_true, if_false, ih h, Option.map_none]
  rw [answer, hnone, Option.getD_none]

/-- The first rule meant for a text answers it, and no other rule changes. -/
theorem answer_of_first? {rules : List (Rule α)} {text : String} {k : Nat} {r : Rule α}
    (h : first? rules text = some k) (hr : rules[k]? = some r) (otherwise : α) :
    answer otherwise rules text = ((r.next otherwise).1, rules.set k (r.next otherwise).2) := by
  have hsome : answer? otherwise text rules =
      some ((r.next otherwise).1, rules.set k (r.next otherwise).2) := by
    induction rules generalizing k with
    | nil => cases h
    | cons r' rest ih =>
      simp only [first?, List.findIdx?_cons] at h
      cases hr' : r'.applies text with
      | true =>
        rw [hr', if_pos rfl, Option.some.injEq] at h
        subst h
        obtain rfl : r' = r := by simpa using hr
        simp only [answer?, hr', if_true, List.set_cons_zero]
      | false =>
        rw [hr', if_neg Bool.false_ne_true, Option.map_eq_some_iff] at h
        obtain ⟨j, hj, rfl⟩ := h
        simp only [answer?, hr', Bool.false_eq_true, if_false, ih hj hr, Option.map_some,
          List.set_cons_succ]
  rw [answer, hsome, Option.getD_some]

end Rule

namespace Script

/-! ## Rules and texts of one kind -/

/-- What happens to the rules of one kind. -/
inductive Entry (α : Type) where
  /-- A rule is registered, behind the others. -/
  | rule (r : Rule α)
  /-- A text is answered. -/
  | asked (text : String)

/-- The rules that were registered, with all their answers. -/
def registered (entries : List (Entry α)) : List (Rule α) :=
  entries.filterMap fun
    | .rule r => some r
    | .asked _ => none

/-- Whether an entry is a text that rule number `k` answers. -/
def Entry.isFor (rules : List (Rule α)) (k : Nat) : Entry α → Bool
  | .rule _ => false
  | .asked text => Rule.first? rules text == some k

/-- How many texts rule number `k` has answered: each came when some of the rules were registered,
and this one was the first of them meant for it. -/
def answered (entries : List (Entry α)) (k : Nat) : Nat :=
  (List.range entries.length).countP fun i =>
    entries[i]?.any (Entry.isFor (registered (entries.take i)) k)

/-- The answer to a text that comes after the entries: that of the first registered rule meant for
it, whose turn is the number of the texts it has answered. -/
def response (otherwise : α) (entries : List (Entry α)) (text : String) : Checked α :=
  match Rule.first? (registered entries) text with
  | none => .ok otherwise
  | some k =>
    match (registered entries)[k]? with
    | none => .ok otherwise
    | some r => r.turn otherwise (answered entries k)

/-- What is left of the registered rules. -/
def standing (entries : List (Entry α)) : List (Rule α) :=
  (registered entries).mapIdx fun k r => r.turned (answered entries k)

@[simp] theorem registered_append (entries more : List (Entry α)) :
    registered (entries ++ more) = registered entries ++ registered more :=
  List.filterMap_append

@[simp] theorem registered_rule (r : Rule α) : registered [.rule r] = [r] := rfl

@[simp] theorem registered_asked (text : String) : registered [(.asked text : Entry α)] = [] := rfl

theorem answered_concat (entries : List (Entry α)) (e : Entry α) (k : Nat) :
    answered (entries ++ [e]) k =
      answered entries k + if e.isFor (registered entries) k then 1 else 0 := by
  -- Which rule a text in the list was for depends on what stood before it only.
  have hearlier : ∀ i ∈ List.range entries.length,
      (entries ++ [e])[i]?.any (Entry.isFor (registered ((entries ++ [e]).take i)) k) =
        entries[i]?.any (Entry.isFor (registered (entries.take i)) k) := by
    intro i hi
    have hi : i < entries.length := List.mem_range.mp hi
    rw [List.getElem?_append_left hi, List.take_append_of_le_length (Nat.le_of_lt hi)]
  rw [answered, answered, List.length_append, List.length_singleton, List.range_succ,
    List.countP_append, List.countP_congr fun i hi => by rw [hearlier i hi], List.countP_singleton,
    List.getElem?_concat_length, List.take_left, Option.any_some]

/-- A rule that is not registered yet has not answered anything. -/
theorem answered_eq_zero {entries : List (Entry α)} {k : Nat}
    (h : (registered entries).length ≤ k) : answered entries k = 0 := by
  induction entries using List.reverseRecOn with
  | nil => rfl
  | append_singleton entries e ih =>
    have hle : (registered entries).length ≤ k :=
      Nat.le_trans (by rw [registered_append, List.length_append]; exact Nat.le_add_right _ _) h
    -- The first rule for a text is one of those that are there.
    have hnot : e.isFor (registered entries) k = false := by
      cases e with
      | rule r => rfl
      | asked text =>
        rw [Entry.isFor, beq_eq_false_iff_ne]
        exact fun hfirst => absurd (Rule.first?_lt hfirst) (Nat.not_lt.mpr hle)
    rw [answered_concat, ih hle, hnot]
    rfl

/-- Later rules take no turns of an earlier one: what counts for it are the texts. -/
theorem answered_append (entries more : List (Entry α)) {k : Nat}
    (hk : k < (registered entries).length) :
    answered (entries ++ more) k =
      answered entries k + more.countP (Entry.isFor (registered entries) k) := by
  induction more using List.reverseRecOn with
  | nil => rw [List.append_nil, List.countP_nil, Nat.add_zero]
  | append_singleton more e ih =>
    have hfor : e.isFor (registered (entries ++ more)) k = e.isFor (registered entries) k := by
      cases e with
      | rule r => rfl
      | asked text =>
        rw [Entry.isFor, Entry.isFor, registered_append, Bool.eq_iff_iff, beq_iff_eq, beq_iff_eq]
        exact Rule.first?_append_eq_some_iff hk _ text
    rw [← List.append_assoc, answered_concat, ih, hfor, List.countP_append, List.countP_singleton,
      Nat.add_assoc]

/-- Whatever comes behind the first rule meant for a text, this rule answers it; only texts that it is
the first rule for move its turn on. -/
theorem response_append {entries : List (Entry α)} {text : String} {k : Nat} {r : Rule α}
    (hfirst : Rule.first? (registered entries) text = some k)
    (hr : (registered entries)[k]? = some r) (otherwise : α) (more : List (Entry α)) :
    response otherwise (entries ++ more) text =
      r.turn otherwise
        (answered entries k + more.countP (Entry.isFor (registered entries) k)) := by
  have hk := Rule.first?_lt hfirst
  have hfirst' : Rule.first? (registered (entries ++ more)) text = some k := by
    rw [registered_append]
    exact (Rule.first?_append_eq_some_iff hk _ text).mpr hfirst
  have hr' : (registered (entries ++ more))[k]? = some r := by
    rw [registered_append, List.getElem?_append_left hk, hr]
  simp only [response, hfirst', hr', answered_append entries more hk]

/-- A rule registered behind one that is meant for a text does not change the answer to it, whatever
comes between the rule and the text. -/
theorem response_insert {entries : List (Entry α)} {text : String}
    (h : (registered entries).any (·.applies text) = true) (r : Rule α) (more : List (Entry α))
    (otherwise : α) :
    response otherwise (entries ++ .rule r :: more) text =
      response otherwise (entries ++ more) text := by
  have hsome : (Rule.first? (registered entries) text).isSome = true := by
    rw [Rule.first?, List.findIdx?_isSome, h]
  obtain ⟨k, hfirst⟩ := Option.isSome_iff_exists.mp hsome
  have hearlier := List.getElem?_eq_getElem (Rule.first?_lt hfirst)
  -- A rule is no text, so it does not count for the turn.
  rw [response_append hfirst hearlier, response_append hfirst hearlier, List.countP_cons]
  rfl

/-! ## What is left of the rules -/

theorem first?_standing (entries : List (Entry α)) (text : String) :
    Rule.first? (standing entries) text = Rule.first? (registered entries) text := by
  refine Rule.first?_congr ?_ text
  refine List.ext_getElem? fun k => ?_
  rw [List.getElem?_map, List.getElem?_map, standing, List.getElem?_mapIdx, Option.map_map]
  rfl

/-- A new rule stands behind the others, with all its answers. -/
theorem standing_rule (entries : List (Entry α)) (r : Rule α) :
    standing (entries ++ [.rule r]) = standing entries ++ [r] := by
  have hsame : ∀ k, answered (entries ++ [.rule r]) k = answered entries k := by
    intro k
    rw [answered_concat]
    rfl
  rw [standing, standing, registered_append, registered_rule, List.mapIdx_concat]
  simp only [hsame]
  rw [answered_eq_zero (Nat.le_refl _), Rule.turned_zero]

/-- A text takes a turn of the first rule meant for it. -/
theorem answered_asked (entries : List (Entry α)) (text : String) (k : Nat) :
    answered (entries ++ [.asked text]) k =
      answered entries k + if Rule.first? (registered entries) text = some k then 1 else 0 := by
  rw [answered_concat, Entry.isFor]
  simp only [beq_iff_eq]

theorem standing_asked_of_first?_eq_none {entries : List (Entry α)} {text : String}
    (h : Rule.first? (registered entries) text = none) :
    standing (entries ++ [.asked text]) = standing entries := by
  simp [standing, answered_asked, h]

/-- Less is left of the first rule meant for a text, and as much as before of the others. -/
theorem standing_asked_of_first? {entries : List (Entry α)} {text : String} {k : Nat} {r : Rule α}
    (h : Rule.first? (registered entries) text = some k)
    (hr : (registered entries)[k]? = some r) :
    standing (entries ++ [.asked text]) =
      (standing entries).set k (r.turned (answered entries k + 1)) := by
  refine List.ext_getElem? fun j => ?_
  rw [List.getElem?_set, standing, standing, List.getElem?_mapIdx, List.getElem?_mapIdx,
    List.length_mapIdx, registered_append, registered_asked, List.append_nil, answered_asked, h]
  -- Of all rules, number `k` alone has answered one more text.
  by_cases hj : k = j
  · subst hj
    rw [if_pos rfl, if_pos (Rule.first?_lt h), if_pos rfl, hr, Option.map_some]
  · simp [hj]

/-- What is left of the rules answers a text with the response to it, and takes a turn. -/
theorem answer_standing (otherwise : α) (entries : List (Entry α)) (text : String) :
    Rule.answer otherwise (standing entries) text =
      (response otherwise entries text, standing (entries ++ [.asked text])) := by
  have hstanding := first?_standing entries text
  cases hfirst : Rule.first? (registered entries) text with
  | none =>
    rw [Rule.answer_of_first?_eq_none (hstanding.trans hfirst),
      standing_asked_of_first?_eq_none hfirst, response, hfirst]
  | some k =>
    have hk := Rule.first?_lt hfirst
    obtain ⟨r, hr⟩ : ∃ r, (registered entries)[k]? = some r := ⟨_, List.getElem?_eq_getElem hk⟩
    have hleft : (standing entries)[k]? = some (r.turned (answered entries k)) := by
      rw [standing, List.getElem?_mapIdx, hr, Option.map_some]
    -- Nothing has come behind the entries yet.
    have hresponse := response_append hfirst hr otherwise []
    rw [List.append_nil, List.countP_nil, Nat.add_zero] at hresponse
    rw [Rule.answer_of_first? (hstanding.trans hfirst) hleft, Rule.next_turned,
      standing_asked_of_first? hfirst hr, hresponse]

/-! ## Scripted servers at work -/

/-- Something that happens around scripted servers. A rule may be registered with any answers: none,
one, or several, with faults among them. -/
inductive Event where
  | onStatement (pattern : String) (answers : List (Checked (List Sql.Row)))
  | onCommand (pattern : String) (answers : List (Checked CommandOutput))
  | execute (target : Sql.Target) (statement : String)
  | query (target : Sql.Target) (statement : String)
  | run (c : Command)

namespace Event

/-- The call that an event is. -/
def call? : Event → Option Call
  | .execute target statement => some (.execute target statement)
  | .query target statement => some (.query target statement)
  | .run c => some (.run c)
  | .onStatement _ _ | .onCommand _ _ => none

/-- The statement that an event sends. -/
def sent? : Event → Option SentStatement
  | .execute target statement => some ⟨target, statement, true⟩
  | .query target statement => some ⟨target, statement, false⟩
  | .onStatement _ _ | .onCommand _ _ | .run _ => none

/-- The command that an event runs. -/
def run? : Event → Option Command
  | .run c => some c
  | .onStatement _ _ | .onCommand _ _ | .execute _ _ | .query _ _ => none

/-- What an event is to the rules for statements. -/
def statement? : Event → Option (Entry (List Sql.Row))
  | .onStatement pattern answers => some (.rule ⟨pattern, answers⟩)
  | .execute _ statement | .query _ statement => some (.asked statement)
  | .onCommand _ _ | .run _ => none

/-- What an event is to the rules for commands. -/
def command? : Event → Option (Entry CommandOutput)
  | .onCommand pattern answers => some (.rule ⟨pattern, answers⟩)
  | .run c => some (.asked c.line)
  | .onStatement _ _ | .execute _ _ | .query _ _ => none

/-- The world after an event. -/
def happen (site : Site Script) (e : Event) (w : World Script) : World Script :=
  match e with
  | .onStatement pattern answers => w.withServer (w.server.onStatement pattern answers)
  | .onCommand pattern answers => w.withServer (w.server.onCommand pattern answers)
  | .execute target statement => (Op.runAt (Op.executeAt target statement) site w).2
  | .query target statement => (Op.runAt (Op.queryAt target statement) site w).2
  | .run c => (Op.runAt (Op.start c) site w).2

end Event

/-- What concerns the rules for statements. -/
def statementEntries (history : List Event) : List (Entry (List Sql.Row)) :=
  history.filterMap Event.statement?

/-- What concerns the rules for commands. -/
def commandEntries (history : List Event) : List (Entry CommandOutput) :=
  history.filterMap Event.command?

/-- A site with scripted servers. -/
def scripted (site : Site Script) (cwd : Place) : Site Script :=
  { site with services := services cwd }

/-- A world whose servers have no rules yet. -/
def fresh (files : FileTree) (effects : List ScriptEffect) : World Script where
  server := { effects }
  files := files

/-- The world after a history, the oldest event of which comes first. -/
def after (site : Site Script) (w : World Script) (history : List Event) : World Script :=
  history.foldl (fun w e => e.happen site w) w

/-- A scripted server answers a statement by the rules for statements, and keeps those for
commands. -/
theorem run_answerStatement (cwd : Place) (text : String) (s : Script) (files : FileTree) :
    ∃ effects files', (answerStatement cwd text).run (s, files) =
      ((Rule.answer [] s.statements text).1,
        ({ s with statements := (Rule.answer [] s.statements text).2, effects }, files')) :=
  ⟨_, _, rfl⟩

/-- It answers a command by the rules for commands, and keeps those for statements. -/
theorem run_answerCommand (cwd : Place) (text : String) (s : Script) (files : FileTree) :
    ∃ effects files', (answerCommand cwd text).run (s, files) =
      ((Rule.answer .silent s.commands text).1,
        ({ s with commands := (Rule.answer .silent s.commands text).2, effects }, files')) :=
  ⟨_, _, rfl⟩

/-- Executing a statement is asking for its rows and keeping the fault. -/
theorem run_execute (cwd : Place) (target : Sql.Target) (text : String)
    (state : Script × FileTree) :
    ((services cwd).execute target text).run state =
      (((answerStatement cwd text).run state).1.map fun _ => (),
        ((answerStatement cwd text).run state).2) := by
  simp only [services, StateT.run_bind]
  rcases (answerStatement cwd text).run state with ⟨_ | _, _⟩ <;> rfl

/-- What a history leaves: the calls it made, and of the rules what their turns leave. -/
structure Stands (history : List Event) (w : World Script) : Prop where
  calls : w.calls = history.filterMap Event.call?
  statements : w.server.statements = standing (statementEntries history)
  commands : w.server.commands = standing (commandEntries history)

section

variable {site : Site Script} {cwd : Place} {history : List Event} {w : World Script}

/-- A statement is answered with the response to it, whatever is done with the answer. -/
theorem Stands.answerStatement (h : Stands history w) (cwd : Place) (text : String) :
    ((Script.answerStatement cwd text).run (w.server, w.files)).1 =
        response [] (statementEntries history) text ∧
      ((Script.answerStatement cwd text).run (w.server, w.files)).2.1.statements =
        standing (statementEntries history ++ [.asked text]) ∧
      ((Script.answerStatement cwd text).run (w.server, w.files)).2.1.commands =
        standing (commandEntries history) := by
  obtain ⟨effects, files, hrun⟩ := run_answerStatement cwd text w.server w.files
  rw [hrun, h.statements, answer_standing]
  exact ⟨rfl, rfl, h.commands⟩

theorem Stands.answerCommand (h : Stands history w) (cwd : Place) (text : String) :
    ((Script.answerCommand cwd text).run (w.server, w.files)).1 =
        response .silent (commandEntries history) text ∧
      ((Script.answerCommand cwd text).run (w.server, w.files)).2.1.commands =
        standing (commandEntries history ++ [.asked text]) ∧
      ((Script.answerCommand cwd text).run (w.server, w.files)).2.1.statements =
        standing (statementEntries history) := by
  obtain ⟨effects, files, hrun⟩ := run_answerCommand cwd text w.server w.files
  rw [hrun, h.commands, answer_standing]
  exact ⟨rfl, rfl, h.statements⟩

/-- The statements that were sent are those of the history. -/
theorem Stands.statementsSent (h : Stands history w) :
    statementsSent w = history.filterMap Event.sent? := by
  rw [Script.statementsSent, h.calls, List.filterMap_filterMap]
  congr 1
  funext e
  cases e <;> rfl

theorem Stands.commandsRun (h : Stands history w) :
    commandsRun w = history.filterMap Event.run? := by
  rw [Script.commandsRun, h.calls, List.filterMap_filterMap]
  congr 1
  funext e
  cases e <;> rfl

theorem Stands.fresh (files : FileTree) (effects : List ScriptEffect) :
    Stands [] (fresh files effects) :=
  ⟨rfl, rfl, rfl⟩

/-- What an event has to leave, so that the history goes on with it. -/
theorem Stands.concat {w' : World Script} {e : Event} (h : Stands history w)
    (hcalls : w'.calls = w.calls ++ e.call?.toList)
    (hstatements : w'.server.statements =
      standing (statementEntries history ++ e.statement?.toList))
    (hcommands : w'.server.commands = standing (commandEntries history ++ e.command?.toList)) :
    Stands (history ++ [e]) w' := by
  refine ⟨?_, ?_, ?_⟩
  · rw [hcalls, h.calls, List.filterMap_append]
    cases e <;> rfl
  · rw [hstatements, statementEntries, statementEntries, List.filterMap_append]
    cases e <;> rfl
  · rw [hcommands, commandEntries, commandEntries, List.filterMap_append]
    cases e <;> rfl

/-- Every event leaves what its history tells. -/
theorem Stands.happen (h : Stands history w) (e : Event) :
    Stands (history ++ [e]) (e.happen (scripted site cwd) w) := by
  -- An event that is nothing to the rules of one kind leaves them alone.
  have hnothing : ∀ {β : Type} (entries : List (Entry β)),
      standing entries = standing (entries ++ (none : Option (Entry β)).toList) :=
    fun entries => congrArg standing (List.append_nil entries).symm
  cases e with
  | onStatement pattern answers =>
    refine h.concat (List.append_nil _).symm ?_ (h.commands.trans (hnothing _))
    exact (congrArg (· ++ [⟨pattern, answers⟩]) h.statements).trans (standing_rule _ _).symm
  | onCommand pattern answers =>
    refine h.concat (List.append_nil _).symm (h.statements.trans (hnothing _)) ?_
    exact (congrArg (· ++ [⟨pattern, answers⟩]) h.commands).trans (standing_rule _ _).symm
  | execute target statement =>
    obtain ⟨_, hasked, hkept⟩ := h.answerStatement cwd statement
    rw [Event.happen, Op.runAt_executeAt, scripted, run_execute]
    exact h.concat rfl hasked (hkept.trans (hnothing _))
  | query target statement =>
    obtain ⟨_, hasked, hkept⟩ := h.answerStatement cwd statement
    rw [Event.happen, Op.runAt_queryAt]
    exact h.concat rfl hasked (hkept.trans (hnothing _))
  | run c =>
    obtain ⟨_, hasked, hkept⟩ := h.answerCommand cwd c.line
    rw [Event.happen, Op.runAt_start]
    exact h.concat rfl (hkept.trans (hnothing _)) hasked

/-- What a history leaves, from servers without rules on. -/
theorem stands_after (site : Site Script) (cwd : Place) (files : FileTree)
    (effects : List ScriptEffect) (history : List Event) :
    Stands history (after (scripted site cwd) (fresh files effects) history) := by
  induction history using List.reverseRecOn with
  | nil => exact .fresh files effects
  | append_singleton history e ih =>
    rw [after, List.foldl_append]
    exact ih.happen e

/-- A query answers the response to its statement. -/
theorem Stands.query (h : Stands history w) (target : Sql.Target) (statement : String) :
    (Op.runAt (Op.queryAt target statement) (scripted site cwd) w).1 =
      response [] (statementEntries history) statement := by
  rw [Op.runAt_queryAt]
  exact (h.answerStatement cwd statement).1

/-- Executing a statement keeps only the fault of the response to it. -/
theorem Stands.execute (h : Stands history w) (target : Sql.Target) (statement : String) :
    (Op.runAt (Op.executeAt target statement) (scripted site cwd) w).1 =
      (response [] (statementEntries history) statement).map fun _ => () := by
  have hexecute := run_execute cwd target statement (w.server, w.files)
  rw [Op.runAt_executeAt, ← (h.answerStatement cwd statement).1]
  exact congrArg Prod.fst hexecute

/-- A command ends with the response to its line. -/
theorem Stands.start (h : Stands history w) (c : Command) :
    (Op.runAt (Op.start c) (scripted site cwd) w).1 =
      response .silent (commandEntries history) c.line := by
  rw [Op.runAt_start]
  exact (h.answerCommand cwd c.line).1

end

/-- Scripted servers under any history of rules and calls. All calls are listed in order, and so are
the statements among them, and the commands. Each statement is answered with the response to it,
whether its rows are asked for or only its fault; so is each command, where the texts are the lines.
Each response is that of the first registered rule meant for the text, in the turn of this rule; a
rule registered behind such a rule changes nothing. -/
theorem answers_in_turn (site : Site Script) (cwd : Place) (files : FileTree)
    (effects : List ScriptEffect) (history : List Event) :
    let site := scripted site cwd
    let w := after site (fresh files effects)
    let ask := fun history target statement =>
      (Op.runAt (Op.queryAt target statement) site (w history)).1
    let execute := fun history target statement =>
      (Op.runAt (Op.executeAt target statement) site (w history)).1
    let start := fun history c => (Op.runAt (Op.start c) site (w history)).1
    (w history).calls = history.filterMap Event.call? ∧
    statementsSent (w history) = history.filterMap Event.sent? ∧
    commandsRun (w history) = history.filterMap Event.run? ∧
    (∀ target statement,
      ask history target statement = response [] (statementEntries history) statement ∧
      execute history target statement =
        (response [] (statementEntries history) statement).map fun _ => ()) ∧
    (∀ c, start history c = response .silent (commandEntries history) c.line) ∧
    (∀ pattern answers later target statement,
      (registered (statementEntries history)).any (·.applies statement) = true →
        ask (history ++ .onStatement pattern answers :: later) target statement =
            ask (history ++ later) target statement ∧
          execute (history ++ .onStatement pattern answers :: later) target statement =
            execute (history ++ later) target statement) ∧
    ∀ pattern answers later c,
      (registered (commandEntries history)).any (·.applies c.line) = true →
        start (history ++ .onCommand pattern answers :: later) c = start (history ++ later) c := by
  intro site w ask execute start
  have hstands : ∀ history, Stands history (w history) :=
    stands_after _ cwd files effects
  have hask : ∀ history target statement, ask history target statement =
      response [] (statementEntries history) statement :=
    fun history => (hstands history).query
  have hexecute : ∀ history target statement, execute history target statement =
      (response [] (statementEntries history) statement).map fun _ => () :=
    fun history => (hstands history).execute
  have hstart : ∀ history c, start history c =
      response .silent (commandEntries history) c.line :=
    fun history => (hstands history).start
  refine ⟨(hstands history).calls, (hstands history).statementsSent,
    (hstands history).commandsRun, fun target statement => ⟨hask _ _ _, hexecute _ _ _⟩,
    hstart history, ?_, ?_⟩
  · intro pattern answers later target statement hearlier
    have hsame : response [] (statementEntries (history ++ .onStatement pattern answers :: later))
        statement = response [] (statementEntries (history ++ later)) statement := by
      rw [statementEntries, statementEntries, List.filterMap_append, List.filterMap_append]
      exact response_insert hearlier ⟨pattern, answers⟩ (statementEntries later) []
    rw [hask, hask, hexecute, hexecute, hsame]
    exact ⟨rfl, rfl⟩
  · intro pattern answers later c hearlier
    rw [hstart, hstart, commandEntries, commandEntries, List.filterMap_append,
      List.filterMap_append]
    exact response_insert hearlier ⟨pattern, answers⟩ (commandEntries later) .silent

/-- Executing takes turns as asking does, and the first rule answers even when its only answer left
has been given. -/
example (f : Fault) (target : Sql.Target) :
    response [] (statementEntries [.onStatement "pg_" [.error f, .ok []],
      .onStatement "pg_database" [.ok [.ofTexts ["sales"]]], .execute target "from pg_database",
      .query target "from pg_class", .query target "from pg_class"]) "from pg_database" = .ok [] := by
  cbv

end Script

end ClusterFixture
