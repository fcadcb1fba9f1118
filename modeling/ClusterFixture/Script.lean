/-
Scripted servers: statements and commands answered by rules, for trying operations out.

The first rule whose pattern occurs in a text answers it. The answers of a rule are given in turn
and the last one again and again. Before a text is answered, the effects whose patterns occur in it
change the files. Statements and commands are answered apart from one another, and each kind has a
list of its own of what was sent.
-/

import ClusterFixture.Operation.Basic

set_option autoImplicit false

namespace ClusterFixture

open ClusterFixture.Text (Bytes)

/-! ## Rules -/

/-- A rule for the texts that contain its pattern. -/
structure Rule (α : Type) where
  pattern : String
  /-- The answers still to give, the last of which stays. -/
  answers : List (Checked α)

namespace Rule

variable {α : Type}

/-- Whether a rule is meant for a text. -/
def applies (r : Rule α) (text : String) : Bool := Text.contains text r.pattern

/-- The next answer of a rule, and the rule after it; a rule without answers gives `otherwise`. -/
def next (r : Rule α) (otherwise : α) : Checked α × Rule α :=
  match r.answers with
  | [] => (.ok otherwise, r)
  | [a] => (a, r)
  | a :: rest => (a, ⟨r.pattern, rest⟩)

/-- The answer of the first rule meant for a text, and the rules after it. -/
def answer? (otherwise : α) (text : String) : List (Rule α) → Option (Checked α × List (Rule α))
  | [] => none
  | r :: rest =>
    if r.applies text then
      let (a, r) := r.next otherwise
      some (a, r :: rest)
    else (answer? otherwise text rest).map fun (a, rest) => (a, r :: rest)

/-- The answer of a list of rules to a text, and the rules after it. -/
def answer (otherwise : α) (rules : List (Rule α)) (text : String) : Checked α × List (Rule α) :=
  (answer? otherwise text rules).getD (.ok otherwise, rules)

end Rule

/-! ## Effects on files -/

/-- What an effect does. -/
inductive FileEffect where
  /-- Puts something at a path, with the directories that lead there. -/
  | write (path : String) (node : FileNode)
  | delete (path : String)
  /-- Remembers what a file holds. -/
  | read (path : String)
  deriving Repr

/-- An effect on files of the texts that contain its pattern. -/
structure ScriptEffect where
  pattern : String
  action : FileEffect
  /-- Whether it happens once only. -/
  once : Bool := false
  /-- Whether it has happened for good. -/
  spent : Bool := false
  /-- What a reading effect saw last. -/
  seen : Option Bytes := none
  deriving Repr

namespace ScriptEffect

/-- The effect after a text came by, and the files. -/
def happen (e : ScriptEffect) (cwd : Place) (text : String) (files : FileTree) :
    ScriptEffect × FileTree :=
  if e.spent || !Text.contains text e.pattern then (e, files)
  else
    let e := { e with spent := e.once }
    match e.action with
    | .write path node => (e, files.plant cwd path node)
    | .delete path =>
      match files.remove cwd path with
      | .ok files => (e, files)
      | .error _ => (e, files)
    | .read path =>
      match files.read cwd path with
      | .ok content => ({ e with seen := some content }, files)
      | .error _ => ({ e with seen := none }, files)

/-- All effects after a text came by, and the files. -/
def happenAll (cwd : Place) (text : String) :
    List ScriptEffect → FileTree → List ScriptEffect × FileTree
  | [], files => ([], files)
  | e :: rest, files =>
    let (e, files) := e.happen cwd text files
    let (rest, files) := happenAll cwd text rest files
    (e :: rest, files)

end ScriptEffect

/-! ## Scripts -/

/-- A server that follows rules. -/
structure Script where
  statements : List (Rule (List Sql.Row)) := []
  commands : List (Rule CommandOutput) := []
  effects : List ScriptEffect := []

namespace Script

/-- The script with one more rule for statements, behind the others. -/
def onStatement (s : Script) (pattern : String) (answers : List (Checked (List Sql.Row))) :
    Script :=
  { s with statements := s.statements ++ [⟨pattern, answers⟩] }

/-- The script with one more rule for commands, behind the others. -/
def onCommand (s : Script) (pattern : String) (answers : List (Checked CommandOutput)) : Script :=
  { s with commands := s.commands ++ [⟨pattern, answers⟩] }

/-- The answer to a statement. -/
def answerStatement (cwd : Place) (text : String) :
    StateM (Script × FileTree) (Checked (List Sql.Row)) := fun (s, files) =>
  let (effects, files) := ScriptEffect.happenAll cwd text s.effects files
  let (answer, rules) := Rule.answer [] s.statements text
  (answer, ({ s with statements := rules, effects := effects }, files))

/-- The answer to a command. -/
def answerCommand (cwd : Place) (text : String) :
    StateM (Script × FileTree) (Checked CommandOutput) := fun (s, files) =>
  let (effects, files) := ScriptEffect.happenAll cwd text s.effects files
  let (answer, rules) := Rule.answer .silent s.commands text
  (answer, ({ s with commands := rules, effects := effects }, files))

/-- The services of scripted servers. -/
def services (cwd : Place) : Services Script where
  execute _ text := do
    match ← answerStatement cwd text with
    | .ok _ => return .ok ()
    | .error f => return .error f
  query _ text := answerStatement cwd text
  run c := answerCommand cwd c.line

end Script

/-! ## What was sent -/

/-- A statement as it was sent. -/
structure SentStatement where
  target : Sql.Target
  statement : String
  /-- Whether it was executed only, so that nobody asked for its rows. -/
  executed : Bool
  deriving DecidableEq, Repr

namespace Call

/-- The statement that a call sent. -/
def statement? : Call → Option SentStatement
  | .execute target statement => some ⟨target, statement, true⟩
  | .query target statement => some ⟨target, statement, false⟩
  | .run _ | .pause _ => none

/-- The command that a call ran. -/
def command? : Call → Option Command
  | .run c => some c
  | .execute _ _ | .query _ _ | .pause _ => none

end Call

namespace Script

/-- The statements that were sent, in their order. -/
def statementsSent (w : World Script) : List SentStatement := w.calls.filterMap Call.statement?

/-- The commands that were run, in their order. -/
def commandsRun (w : World Script) : List Command := w.calls.filterMap Call.command?

end Script

end ClusterFixture
