/-
What the steps of a scenario see of the steps before them.

A step is run from whatever world it meets; what it does to the context of the scenario is one of
four effects, and which one the answers of the server decide and the context does not. The first
half of the file reduces a step to its effect. The second half is about lists of effects: the last
outcome, the failure that is still to be handed out, and the fault of the last failed lookup are
each that of the latest effect that touches them.
-/

import ClusterFixture.Proofs.Lookups
import ClusterFixture.Proofs.Retrying
import ClusterFixture.StepContext
import Mathlib.Data.List.Induction

set_option autoImplicit false

namespace ClusterFixture

open ClusterFixture.Op (runAt storageAnswer utilityCommand)
open ClusterFixture.Sql (Row RelationKind)

variable {σ : Type}

/-! ## Steps -/

/-- What a scenario does with what its steps pass on. -/
inductive Step where
  | record (outcome : CommandOutcome)
  | takeFailure
  | recordLookup (fault : Fault)
  | runLine (line : String)
  | runUtility (line : String)
  | findTable (database table : String) (kind : Option RelationKind)
  | findPartition (database schema table : String) (kind : Option RelationKind)
    (level position : Nat)
  deriving Repr

/-- What a step answers. -/
inductive StepReply where
  | done
  | handed (failure : Option Fault)
  | found (found : Bool)
  deriving Repr

/-- Does a step with a context. -/
def Step.perform (c : StepContext) : Step → Op σ (StepReply × StepContext)
  | .record outcome => return (.done, c.record outcome)
  | .takeFailure => return (.handed c.takeFailure.1, c.takeFailure.2)
  | .recordLookup fault => return (.done, c.recordLookup fault)
  | .runLine line => return (.done, ← Op.runLineIn c line)
  | .runUtility line => return (.done, ← Op.runUtilityIn c line)
  | .findTable database table kind => do
    let (found, c) := (← Op.findTable database table kind).passOn c
    return (.found found, c)
  | .findPartition database schema table kind level position => do
    let (found, c) := (← Op.findPartition database schema table kind level position).passOn c
    return (.found found, c)

namespace StepContext

/-- The context after a step that met a world. A step that fails passes nothing on. -/
def turn (site : Site σ) (c : StepContext) (t : Step × World σ) : StepContext :=
  match (runAt (t.1.perform c) site t.2).1 with
  | .ok (_, c') => c'
  | .error _ => c

/-- The context after steps, each of which met a world of its own. -/
def after (site : Site σ) (turns : List (Step × World σ)) : StepContext :=
  turns.foldl (turn site) {}

end StepContext

/-! ## Effects -/

/-- What a step does to what the steps pass on. -/
inductive StepEffect where
  /-- There is one more outcome. -/
  | outcome (outcome : CommandOutcome)
  /-- The failure of the last outcome was handed out, if there was one. -/
  | taken
  /-- A lookup failed. -/
  | lookup (fault : Fault)
  | nothing
  deriving Repr

namespace StepEffect

/-- The effect of a command that answers so: it fails exactly when its status is not zero. -/
def ofCommand (c : Command) : Checked CommandOutput → StepEffect
  | .ok output => .outcome ⟨output, if output.status = 0 then none else some (output.failure c)⟩
  | .error _ => .nothing

/-- The effect of a query for the storage of a table. -/
def ofStorage : Checked (List Row) → StepEffect
  | .ok _ => .nothing
  | .error fault => .lookup fault

end StepEffect

/-- The command that runs a line on this host. -/
def lineCommand (s : Settings.Harness) (line : String) : Command where
  name := "run " ++ line
  line := line
  bindings := [
      ("PGHOST", s.connection.host), ("PGPORT", s.connection.port.repr),
      ("PGUSER", s.connection.user), ("MASTER_DATA_DIRECTORY", s.masterDirectory)]
      ++ (if s.home.isEmpty then [] else [("GPHOME", s.home)])

/-- What a server answers to a command. -/
def commandAnswer (site : Site σ) (c : Command) (w : World σ) : Checked CommandOutput :=
  ((site.services.run c).run (w.server, w.files)).1

/-- The effect of a step in a world: a command records its outcome if it can be started, and a
lookup records the fault of the query for the storage of its table, if that query fails. A lookup of
a partition sends that query for the first partition that is listed. -/
def Step.effect (site : Site σ) (w : World σ) : Step → StepEffect
  | .record outcome => .outcome outcome
  | .takeFailure => .taken
  | .recordLookup fault => .lookup fault
  | .runLine line =>
    .ofCommand (lineCommand site.settings line)
      (commandAnswer site (lineCommand site.settings line) w)
  | .runUtility line =>
    .ofCommand (utilityCommand site.settings line)
      (commandAnswer site (utilityCommand site.settings line) w)
  | .findTable database table _ =>
    .ofStorage (storageAnswer site database table (w.server, w.files)).1
  | .findPartition database schema table _ level position =>
    match runAt (Op.partitionNames schema table database level position) site w with
    | (.ok (partition :: _), w') =>
      .ofStorage (storageAnswer site database partition (w'.server, w'.files)).1
    | _ => .nothing

namespace StepContext

/-- The context after an effect. -/
def apply (c : StepContext) : StepEffect → StepContext
  | .outcome outcome => c.record outcome
  | .taken => c.takeFailure.2
  | .lookup fault => c.recordLookup fault
  | .nothing => c

end StepContext

/-! ## A step comes down to its effect -/

theorem StepEffect.ofCommand_ok (c : Command) (output : CommandOutput) :
    ofCommand c (.ok output) = .outcome (.of c output) := by
  rw [ofCommand, CommandOutcome.of, CommandOutput.succeeded]
  simp only [beq_iff_eq]

namespace StepContext

section

variable (site : Site σ) (c : StepContext)

/-- A command that is judged and recorded does what its answer says. -/
theorem turn_of_outcome {step : Step} {op : Op σ CommandOutcome} {command : Command} {w : World σ}
    (hstep : step.perform c = ((op >>= fun outcome => pure (c.record outcome)) >>= fun c' =>
      (pure (.done, c') : Op σ (StepReply × StepContext))))
    (hop : runAt op site w = runAt (Op.outcome command) site w) :
    c.turn site (step, w) = c.apply (.ofCommand command (commandAnswer site command w)) := by
  rw [turn, hstep, Op.runAt_bind, Op.runAt_bind, hop, Op.runAt_outcome]
  unfold commandAnswer
  rcases (site.services.run command).run (w.server, w.files) with ⟨f | output, after⟩
  · rfl
  · rw [StepEffect.ofCommand_ok]
    rfl

/-- A lookup that is passed on does what the answer to its query says. Where the lookup has a fault
of its own, the query was answered. -/
theorem turn_of_findTable {step : Step} {database table : String} {kind : Option RelationKind}
    {w there : World σ}
    (hstep : runAt (step.perform c) site w = runAt (Op.findTable database table kind >>= fun f =>
      (pure (.found (f.passOn c).1, (f.passOn c).2) : Op σ (StepReply × StepContext))) site there) :
    c.turn site (step, w) =
      c.apply (.ofStorage (storageAnswer site database table (there.server, there.files)).1) := by
  obtain ⟨w', hfind, _⟩ := Op.went_findTable database table kind site there
  rw [turn, hstep, Op.runAt_bind, hfind]
  rcases (storageAnswer site database table (there.server, there.files)).1 with
    f | _ | ⟨row, rest⟩
  · rfl
  · rfl
  · rcases kind with _ | expected
    · rfl
    · simp only [Op.judged]
      rcases Op.kindOf row with f | actual
      · rfl
      · rfl

/-- A step changes what is passed on by its effect in the world that it meets, and by nothing else.
In particular a step that fails changes nothing. -/
theorem turn_eq (step : Step) (w : World σ) :
    c.turn site (step, w) = c.apply (step.effect site w) := by
  cases step with
  | record outcome => rfl
  | takeFailure => rfl
  | recordLookup fault => rfl
  | runLine line => exact turn_of_outcome site c rfl rfl
  | runUtility line => exact turn_of_outcome site c rfl rfl
  | findTable database table kind => exact turn_of_findTable site c rfl
  | findPartition database schema table kind level position =>
    have hperform : (Step.findPartition database schema table kind level position).perform c =
        (Op.findPartition database schema table kind level position >>= fun f =>
          (pure (.found (f.passOn c).1, (f.passOn c).2) : Op σ (StepReply × StepContext))) := rfl
    -- Only where a partition is listed is there a lookup at all.
    rcases hnames : runAt (Op.partitionNames schema table database level position) site w with
      ⟨f | _ | ⟨partition, rest⟩, w'⟩
    · rw [turn, hperform, Op.findPartition, Op.runAt_bind, Op.runAt_bind, hnames, Step.effect,
        hnames]
      rfl
    · rw [turn, hperform, Op.findPartition, Op.runAt_bind, Op.runAt_bind, hnames, Step.effect,
        hnames]
      rfl
    · have hfound : runAt (Op.findPartition database schema table kind level position) site w =
          runAt (Op.findTable database partition kind) site w' :=
        Op.runAt_bind_ok hnames _
      have hlooked :
          runAt ((Step.findPartition database schema table kind level position).perform c) site w =
            runAt (Op.findTable database partition kind >>= fun f =>
              (pure (.found (f.passOn c).1, (f.passOn c).2) : Op σ (StepReply × StepContext)))
              site w' := by
        rw [hperform, Op.runAt_bind, Op.runAt_bind, hfound]
      have hturn := turn_of_findTable site c hlooked
      rw [hturn, Step.effect, hnames]

end

/-- The effects of steps, each in the world that it met. -/
def effects (site : Site σ) (turns : List (Step × World σ)) : List StepEffect :=
  turns.map fun t => t.1.effect site t.2

/-- What steps leave is what their effects leave. -/
theorem after_eq (site : Site σ) (turns : List (Step × World σ)) :
    after site turns = (effects site turns).foldl apply {} := by
  rw [after, effects, List.foldl_map]
  congr 1
  funext c t
  exact turn_eq site c t.1 t.2

end StepContext

/-! ## The latest effect of a kind -/

namespace StepEffect

/-- The outcome that an effect records. -/
def outcome? : StepEffect → Option CommandOutcome
  | .outcome o => some o
  | _ => none

/-- The failure to be handed out that an effect leaves, which may be none; a failed lookup leaves
the one before. -/
def failure? : StepEffect → Option (Option Fault)
  | .outcome o => some o.failure
  | .taken => some none
  | _ => none

/-- The fault of a lookup. -/
def lookup? : StepEffect → Option Fault
  | .lookup f => some f
  | _ => none

/-- What the latest effect with a field has in it. -/
def Latest {α : Type} (field : StepEffect → Option α) (effects : List StepEffect) (a : α) : Prop :=
  ∃ earlier e later, effects = earlier ++ e :: later ∧ field e = some a ∧
    ∀ e' ∈ later, field e' = none

/-- The latest outcome has a failure, and it was not handed out since. -/
def Untaken (effects : List StepEffect) (f : Fault) : Prop :=
  ∃ earlier o later, effects = earlier ++ .outcome o :: later ∧ o.failure = some f ∧
    ∀ e ∈ later, e.outcome? = none ∧ e ≠ .taken

theorem untaken_iff (effects : List StepEffect) (f : Fault) :
    Untaken effects f ↔ Latest failure? effects (some f) := by
  constructor
  · rintro ⟨earlier, o, later, hsplit, hfailure, hlater⟩
    refine ⟨earlier, .outcome o, later, hsplit, congrArg some hfailure, fun e he => ?_⟩
    obtain ⟨houtcome, htaken⟩ := hlater e he
    cases e with
    | outcome o => cases houtcome
    | taken => exact absurd rfl htaken
    | lookup f => rfl
    | nothing => rfl
  · rintro ⟨earlier, e, later, hsplit, hfailure, hlater⟩
    cases e with
    | outcome o =>
      refine ⟨earlier, o, later, hsplit, Option.some.inj hfailure, fun e he => ?_⟩
      have hnone := hlater e he
      cases e with
      | outcome o => cases hnone
      | taken => cases hnone
      | lookup f => exact ⟨rfl, nofun⟩
      | nothing => exact ⟨rfl, nofun⟩
    | taken => cases hfailure
    | lookup f => cases hfailure
    | nothing => cases hfailure

section

variable {α : Type}

theorem latest_concat_iff {field : StepEffect → Option α} (effects : List StepEffect)
    (e : StepEffect) (a : α) :
    Latest field (effects ++ [e]) a ↔
      field e = some a ∨ (field e = none ∧ Latest field effects a) := by
  constructor
  · rintro ⟨earlier, e', later, hsplit, hfield, hnone⟩
    rcases List.eq_nil_or_concat later with rfl | ⟨later', last, rfl⟩
    · left
      have hlast : e = e' := List.singleton_inj.mp (List.append_inj' hsplit rfl).2
      rw [hlast]
      exact hfield
    · right
      have hcut : effects ++ [e] = (earlier ++ e' :: later') ++ [last] := by simpa using hsplit
      obtain ⟨heffects, hlast⟩ := List.append_inj' hcut rfl
      rw [List.singleton_inj.mp hlast]
      refine ⟨hnone last (by simp), earlier, e', later', heffects, hfield, fun e'' hmem => ?_⟩
      exact hnone e'' (by simp [hmem])
  · rintro (hfield | ⟨hnone, earlier, e', later, rfl, hfield, hlater⟩)
    · exact ⟨effects, e, [], rfl, hfield, by simp⟩
    · refine ⟨earlier, e', later ++ [e], by simp, hfield, fun e'' hmem => ?_⟩
      rcases List.mem_append.mp hmem with hmem | hmem
      · exact hlater e'' hmem
      · rw [List.mem_singleton.mp hmem]
        exact hnone

/-- A cell that every effect with a field sets to it, and every other one leaves alone, holds the
field of the latest one, unless it holds what it held at the start. -/
theorem latest_iff_of_apply (field : StepEffect → Option α) (cell : StepContext → α) {start : α}
    (hstart : cell {} = start)
    (hset : ∀ (c : StepContext) e a, field e = some a → cell (c.apply e) = a)
    (hkeep : ∀ (c : StepContext) e, field e = none → cell (c.apply e) = cell c)
    (effects : List StepEffect) {a : α} (ha : a ≠ start) :
    cell (effects.foldl StepContext.apply {}) = a ↔ Latest field effects a := by
  -- The induction is on the last effect: it sets the cell, or leaves it as it was.
  induction effects using List.reverseRecOn with
  | nil =>
    refine iff_of_false ?_ ?_
    · rw [List.foldl_nil, hstart]
      exact ha.symm
    · rintro ⟨earlier, e, later, hsplit, -⟩
      simp at hsplit
  | append_singleton effects e ih =>
    rw [latest_concat_iff, List.foldl_append, List.foldl_cons, List.foldl_nil]
    rcases hfield : field e with _ | b
    · rw [hkeep _ e hfield, ih]
      simp
    · rw [hset _ e b hfield]
      simp

/-- The same for a cell that is empty at the start. -/
theorem latest_iff_of_apply_some (field : StepEffect → Option α) (cell : StepContext → Option α)
    (hstart : cell {} = none)
    (hset : ∀ (c : StepContext) e a, field e = some a → cell (c.apply e) = some a)
    (hkeep : ∀ (c : StepContext) e, field e = none → cell (c.apply e) = cell c)
    (effects : List StepEffect) (a : α) :
    cell (effects.foldl StepContext.apply {}) = some a ↔ Latest field effects a := by
  rw [latest_iff_of_apply (fun e => (field e).map some) cell hstart ?_ ?_ effects
    (Option.some_ne_none a)]
  · simp only [Latest, Option.map_eq_some_iff, Option.some.injEq, exists_eq_right,
      Option.map_eq_none_iff]
  · intro c e b hb
    obtain ⟨a', hfield, rfl⟩ := Option.map_eq_some_iff.mp hb
    exact hset c e a' hfield
  · exact fun c e hnone => hkeep c e (Option.map_eq_none_iff.mp hnone)

end

end StepEffect

namespace StepContext

open StepEffect (Latest Untaken)

/-- The output in a context is that of the latest outcome. -/
theorem output_iff (effects : List StepEffect) (output : CommandOutput) :
    (effects.foldl apply {}).last.map (·.output) = some output ↔
      Latest (fun e => e.outcome?.map (·.output)) effects output := by
  refine StepEffect.latest_iff_of_apply_some (fun e => e.outcome?.map (·.output))
    (fun c => c.last.map (·.output)) rfl ?_ ?_ effects output
  · intro c e a hfield
    cases e with
    | outcome o => exact hfield
    | taken => cases hfield
    | lookup f => cases hfield
    | nothing => cases hfield
  · intro c e hnone
    cases e with
    | outcome o => cases hnone
    | taken =>
      -- Handing out a failure leaves the output.
      rw [apply, takeFailure, Option.map_map]
      rfl
    | lookup f => rfl
    | nothing => rfl

/-- A failure that can be taken is that of the latest outcome, and was not taken since. -/
theorem takeFailure_iff (effects : List StepEffect) (f : Fault) :
    (effects.foldl apply {}).takeFailure.1 = some f ↔ Untaken effects f := by
  rw [StepEffect.untaken_iff]
  refine StepEffect.latest_iff_of_apply StepEffect.failure? (fun c => c.takeFailure.1) rfl ?_ ?_
    effects (Option.some_ne_none f)
  · intro c e a hfield
    cases e with
    | outcome o => exact Option.some.inj hfield
    | taken =>
      rw [← Option.some.inj hfield]
      simp [apply, takeFailure]
    | lookup f => cases hfield
    | nothing => cases hfield
  · intro c e hnone
    cases e with
    | outcome o => cases hnone
    | taken => cases hnone
    | lookup f => rfl
    | nothing => rfl

theorem lookupFault_iff (effects : List StepEffect) (f : Fault) :
    (effects.foldl apply {}).lookupFault = some f ↔ Latest StepEffect.lookup? effects f := by
  refine StepEffect.latest_iff_of_apply_some StepEffect.lookup? lookupFault rfl ?_ ?_ effects f
  · intro c e a hfield
    cases e with
    | lookup f => exact hfield
    | outcome o => cases hfield
    | taken => cases hfield
    | nothing => cases hfield
  · intro c e hnone
    cases e with
    | lookup f => cases hnone
    | outcome o => rfl
    | taken => rfl
    | nothing => rfl

theorem hasFailure_iff (c : StepContext) :
    c.hasFailure = true ↔ ∃ f, c.takeFailure.1 = some f := by
  rw [hasFailure, takeFailure]
  rcases c.last with _ | o
  · simp
  · simp [Option.isSome_iff_exists]

/-! ## Checks -/

/-- What a context shows of an output, in itself and in its checks, whatever reads the patterns;
without an output it shows none, and no status. -/
structure Shows (c : StepContext) (output : Option CommandOutput) : Prop where
  status : c.status? = output.map (·.status)
  stdout : c.stdout = (output.map (·.stdout)).getD ""
  stderr : c.stderr = (output.map (·.stderr)).getD ""
  checkStatus : ∀ n, c.checkStatus n = .ok () ↔ output.map (·.status) = some n
  checkStdout : ∀ reader pattern, c.checkStdout pattern reader = .ok () ↔
    found reader pattern ((output.map (·.stdout)).getD "") = .ok true
  checkStdoutLacks : ∀ reader pattern, c.checkStdoutLacks pattern reader = .ok () ↔
    found reader pattern ((output.map (·.stdout)).getD "") = .ok false
  checkStderr : ∀ reader pattern, c.checkStderr pattern reader = .ok () ↔
    output ≠ none ∧ found reader pattern ((output.map (·.stderr)).getD "") = .ok true

section

variable (c : StepContext) (reader : PatternReader) (pattern : String)

theorem checkStdout_eq_ok_iff :
    c.checkStdout pattern reader = .ok () ↔ found reader pattern c.stdout = .ok true := by
  rw [checkStdout]
  rcases found reader pattern c.stdout with f | _ | _
  · exact ⟨nofun, nofun⟩
  · exact ⟨nofun, nofun⟩
  · exact ⟨fun _ => rfl, fun _ => rfl⟩

theorem checkStdoutLacks_eq_ok_iff :
    c.checkStdoutLacks pattern reader = .ok () ↔ found reader pattern c.stdout = .ok false := by
  rw [checkStdoutLacks]
  rcases found reader pattern c.stdout with f | _ | _
  · exact ⟨nofun, nofun⟩
  · exact ⟨fun _ => rfl, fun _ => rfl⟩
  · exact ⟨nofun, nofun⟩

theorem checkStderr_eq_ok_iff :
    c.checkStderr pattern reader = .ok () ↔
      c.last ≠ none ∧ found reader pattern c.stderr = .ok true := by
  rw [checkStderr, stderr]
  rcases c.last with _ | o
  · exact ⟨nofun, fun h => absurd rfl h.1⟩
  · simp only [Option.isNone_some, Bool.false_eq_true, if_false, ne_eq, reduceCtorEq,
      not_false_eq_true, true_and]
    generalize found reader pattern _ = verdict
    rcases verdict with f | _ | _
    · exact ⟨nofun, nofun⟩
    · exact ⟨nofun, nofun⟩
    · exact ⟨fun _ => rfl, fun _ => rfl⟩

end

theorem checkStatus_eq_ok_iff (c : StepContext) (n : Int) :
    c.checkStatus n = .ok () ↔ c.status? = some n := by
  rw [checkStatus]
  split
  · next h => exact iff_of_true rfl h
  · next h => exact iff_of_false nofun h

theorem shows_output (c : StepContext) : c.Shows (c.last.map (·.output)) where
  status := by rw [status?, Option.map_map]; rfl
  stdout := by rw [stdout, Option.map_map]; rfl
  stderr := by rw [stderr, Option.map_map]; rfl
  checkStatus n := by rw [checkStatus_eq_ok_iff, status?, Option.map_map]; rfl
  checkStdout reader p := by rw [checkStdout_eq_ok_iff, stdout, Option.map_map]; rfl
  checkStdoutLacks reader p := by rw [checkStdoutLacks_eq_ok_iff, stdout, Option.map_map]; rfl
  checkStderr reader p := by
    rw [checkStderr_eq_ok_iff, stderr, Option.map_map, ne_eq, ne_eq, Option.map_eq_none_iff]
    rfl

/-- A pattern that can be read is found, or it is not: one of the two checks of what was written
passes, and the other does not. -/
theorem checkStdout_eq_ok_iff_not_lacks (c : StepContext) {reader : PatternReader}
    {pattern : String} {holds : String → Bool} (hread : reader pattern = .ok holds) :
    c.checkStdout pattern reader = .ok () ↔ ¬ c.checkStdoutLacks pattern reader = .ok () := by
  have hfound : found reader pattern c.stdout = .ok (holds c.stdout) := by rw [found, hread]
  rw [checkStdout_eq_ok_iff, checkStdoutLacks_eq_ok_iff, hfound]
  cases holds c.stdout
  · simp
  · simp

/-! ## A command that cannot be started -/

/-- Such a step ends with the fault, and what is passed on stays as it was. -/
theorem runAt_of_unstarted (site : Site σ) (c : StepContext) {op : Op σ CommandOutcome}
    {command : Command} {w : World σ} {f : Fault}
    (hop : runAt op site w = runAt (Op.outcome command) site w)
    (hanswer : commandAnswer site command w = .error f) :
    (runAt ((op >>= fun outcome => pure (c.record outcome)) >>= fun c' =>
      (pure (.done, c') : Op σ (StepReply × StepContext))) site w).1 = .error f := by
  rw [Op.runAt_bind, Op.runAt_bind, hop, Op.runAt_outcome]
  unfold commandAnswer at hanswer
  rcases hrun : (site.services.run command).run (w.server, w.files) with ⟨f' | output, after⟩
  · rw [hrun] at hanswer
    cases hanswer
    rfl
  · rw [hrun] at hanswer
    cases hanswer

/-! ## What is passed on follows the history -/

/-- What a context has of a history. -/
structure Follows (c : StepContext) (history : List StepEffect) : Prop where
  /-- The checks see the output of the latest outcome. -/
  shows : ∀ output, Latest (fun e => e.outcome?.map (·.output)) history output →
    c.Shows (some output)
  /-- Before the first outcome they see none. -/
  shows_none : (∀ e ∈ history, e.outcome? = none) → c.Shows none
  hasFailure : c.hasFailure = true ↔ ∃ f, Untaken history f
  takeFailure : ∀ f, c.takeFailure.1 = some f ↔ Untaken history f
  lookupFault : ∀ f, c.lookupFault = some f ↔ Latest StepEffect.lookup? history f

theorem last_eq_none {history : List StepEffect} (hnone : ∀ e ∈ history, e.outcome? = none) :
    (history.foldl apply {}).last.map (·.output) = none := by
  refine Option.eq_none_iff_forall_ne_some.mpr fun output hlast => ?_
  obtain ⟨earlier, e, later, rfl, houtput, -⟩ := (output_iff history output).mp hlast
  have hoff := hnone e (by simp)
  simp [hoff] at houtput

theorem follows (history : List StepEffect) : (history.foldl apply {}).Follows history where
  shows output hlatest := by
    rw [← (output_iff history output).mpr hlatest]
    exact shows_output _
  shows_none hnone := by
    rw [← last_eq_none hnone]
    exact shows_output _
  hasFailure := by
    rw [hasFailure_iff]
    exact exists_congr (takeFailure_iff history)
  takeFailure := takeFailure_iff history
  lookupFault := lookupFault_iff history

/-- A failure that can be taken after another was taken is that of an outcome in between. -/
theorem exists_outcome_of_untaken {earlier between : List StepEffect} {f : Fault}
    (huntaken : Untaken (earlier ++ .taken :: between) f) :
    ∃ o, .outcome o ∈ between ∧ o.failure = some f := by
  obtain ⟨before, o, later, hsplit, hfailure, hlater⟩ := huntaken
  refine ⟨o, ?_, hfailure⟩
  rcases List.append_eq_append_iff.mp hsplit with ⟨gap, -, hgap⟩ | ⟨gap, -, hgap⟩
  · rcases gap with _ | ⟨e, gap⟩
    · cases hgap
    · rw [(List.cons.inj hgap).2]
      simp
  · -- The failure would have been taken after its outcome.
    rcases gap with _ | ⟨e, gap⟩
    · cases hgap
    · have htaken : StepEffect.taken ∈ later := by
        rw [(List.cons.inj hgap).2]
        simp
      exact absurd rfl (hlater _ htaken).2

/-- After any steps, whatever worlds they met, the checks see the latest outcome, of a command or
recorded as it is: its status and outputs, and its failure until that is taken. The fault of a
lookup is that of the latest lookup that failed or was recorded. The latest is taken over all
effects, so a step without an effect on a thing leaves it; one is a command that cannot be started,
which ends the step with its fault. A failure is handed out once: where one is taken after another,
an outcome in between left it. Whatever reads the patterns, one that can be read passes exactly one
of the two checks of what was written, in every context. -/
theorem after_follows_steps (site : Site σ) (turns : List (Step × World σ)) :
    (after site turns).Follows (effects site turns)
    ∧ (∀ before w between f, turns = before ++ (.takeFailure, w) :: between →
        (after site turns).takeFailure.1 = some f →
        ∃ o, .outcome o ∈ effects site between ∧ o.failure = some f)
    ∧ (∀ (c : StepContext) line w f,
        (commandAnswer site (lineCommand site.settings line) w = .error f →
          (runAt ((Step.runLine line).perform c) site w).1 = .error f
          ∧ c.turn site (.runLine line, w) = c)
        ∧ (commandAnswer site (utilityCommand site.settings line) w = .error f →
          (runAt ((Step.runUtility line).perform c) site w).1 = .error f
          ∧ c.turn site (.runUtility line, w) = c))
    ∧ ∀ (c : StepContext) (reader : PatternReader) pattern holds, reader pattern = .ok holds →
        (c.checkStdout pattern reader = .ok () ↔ ¬ c.checkStdoutLacks pattern reader = .ok ()) := by
  refine ⟨?_, ?_, ?_, ?_⟩
  · rw [after_eq]
    exact follows (effects site turns)
  · intro before w between f hturns htaken
    rw [after_eq, takeFailure_iff, hturns, effects, List.map_append, List.map_cons] at htaken
    exact exists_outcome_of_untaken htaken
  · intro c line w f
    constructor
    · intro hanswer
      refine ⟨runAt_of_unstarted site c rfl hanswer, ?_⟩
      rw [turn_eq, Step.effect, hanswer]
      rfl
    · intro hanswer
      refine ⟨runAt_of_unstarted site c rfl hanswer, ?_⟩
      rw [turn_eq, Step.effect, hanswer]
      rfl
  · exact fun c _ _ _ hread => checkStdout_eq_ok_iff_not_lacks c hread

end StepContext

end ClusterFixture
