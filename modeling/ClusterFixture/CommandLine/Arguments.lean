/-
What a command line asks for.

The first argument names a command, the others are its options. The value of an option follows it,
behind an equals sign or as the next argument, which must then not look like an option. No option is
given twice, and nothing else is on the line.
-/

import ClusterFixture.Number.Integer
import ClusterFixture.Text.Search

set_option autoImplicit false

namespace ClusterFixture.CommandLine

/-! ## Requests -/

/-- The server that a transition is watched from, as far as it is given. -/
structure EndpointChoice where
  host? : Option String := none
  port? : Option Nat := none
  user? : Option String := none
  deriving DecidableEq, Repr

/-- The commands, without their options. -/
inductive Verb where
  | waitInSync
  | waitResync
  | waitChangeTracking
  | backup
  | validate
  | segments
  deriving DecidableEq, Repr

/-- A command with its options. -/
inductive Task where
  | waitInSync (endpoint : EndpointChoice)
  | waitResync (endpoint : EndpointChoice)
  | waitChangeTracking (endpoint : EndpointChoice)
  | backup (database : String)
  | validate (database : String) (tables : Nat)
  | segments
  deriving DecidableEq, Repr

/-- What a help text is about. -/
inductive Topic where
  /-- The program as a whole. -/
  | program
  | command (verb : Verb)
  /-- The command that shows help texts. -/
  | help
  deriving DecidableEq, Repr

/-- What a command line asks for. -/
inductive Request where
  | perform (task : Task)
  | help (topic : Topic)
  | version
  deriving DecidableEq, Repr

/-- Why a command line makes no sense. -/
inductive UsageFault where
  | noCommand
  | unknownCommand (name : String)
  | unexpected (argument : String)
  | repeated (option : String)
  | noValue (option : String)
  | badValue (option value : String)
  | missing (option : String)
  deriving DecidableEq, Repr

namespace Verb

/-- All commands. -/
def all : List Verb :=
  [.waitInSync, .waitResync, .waitChangeTracking, .backup, .validate, .segments]

/-- The name of a command. -/
def name : Verb → String
  | .waitInSync => "wait-insync"
  | .waitResync => "wait-resync"
  | .waitChangeTracking => "wait-change-tracking"
  | .backup => "backup-db"
  | .validate => "validate-db"
  | .segments => "segments"

/-- The command of a name. -/
def ofName? (name : String) : Option Verb := all.find? fun v => v.name == name

end Verb

/-- The command of a task. -/
def Task.verb : Task → Verb
  | .waitInSync _ => .waitInSync
  | .waitResync _ => .waitResync
  | .waitChangeTracking _ => .waitChangeTracking
  | .backup _ => .backup
  | .validate _ _ => .validate
  | .segments => .segments

/-! ## Options -/

/-- What an option takes. -/
inductive OptionKind where
  | text
  | port
  | size
  deriving DecidableEq, Repr

namespace OptionKind

/-- Whether a value fits an option. -/
def fits (k : OptionKind) (value : String) : Bool :=
  match k with
  | .text => true
  | .port =>
    match Number.readInteger (Number.signedRange 64) value with
    | .ok n => (Number.unsignedRange 16).holds n
    | .error _ => false
  | .size => (Number.readInteger (Number.unsignedRange 64) value).toBool

end OptionKind

/-- An option of a command. -/
structure OptionRule where
  name : String
  kind : OptionKind
  required : Bool
  /-- What the option is for, where its name does not say it. -/
  about : String := ""
  deriving Repr

/-- The options of a command. -/
def Verb.options : Verb → List OptionRule
  | .backup => [⟨"dbname", .text, true, ""⟩]
  | .validate =>
    [⟨"dbname", .text, true, ""⟩,
      ⟨"expected-tables", .size, true,
        "Number of user tables the restored database must hold"⟩]
  | .segments => []
  | _ => [⟨"host", .text, false, ""⟩, ⟨"port", .port, false, ""⟩, ⟨"user", .text, false, ""⟩]

/-! ## Reading -/

/-- Whether an argument looks like an option. -/
def looksLikeOption (argument : String) : Bool :=
  Text.startsWith argument "-" && argument ≠ "-"

/-- The values of options, or a wish for help. -/
inductive Given where
  | help
  | values (options : List (String × String))
  deriving DecidableEq, Repr

/-- The name behind two hyphens, and the value behind an equals sign. -/
def splitOption (argument : String) : String × Option String :=
  let cs := argument.toList.drop 2
  match Text.cutAt '=' cs with
  | some (name, value) => (String.ofList name, some (String.ofList value))
  | none => (String.ofList cs, none)

/-- Reads the options of a command; the number bounds the arguments. -/
def readOptions (rules : List OptionRule) :
    Nat → List String → List (String × String) → Except UsageFault Given
  | _, [], done => .ok (.values done)
  | 0, argument :: _, _ => .error (.unexpected argument)
  | n + 1, argument :: rest, done =>
    if argument = "--" then
      match rest with
      | [] => .ok (.values done)
      | extra :: _ => .error (.unexpected extra)
    else if Text.startsWith argument "--" then
      let (name, attached?) := splitOption argument
      match rules.find? fun r => r.name == name with
      | none =>
        if name = "help" && attached?.isNone then .ok .help else .error (.unexpected argument)
      | some rule =>
        let value? := match attached?, rest with
          | some value, rest => some (value, rest)
          | none, value :: rest => if looksLikeOption value then none else some (value, rest)
          | none, [] => none
        match value? with
        | none => .error (.noValue name)
        | some (value, rest) =>
          if (done.lookup name).isSome then .error (.repeated name)
          else if !rule.kind.fits value then .error (.badValue name value)
          else readOptions rules n rest (done ++ [(name, value)])
    else if Text.startsWith argument "-h" then .ok .help
    else .error (.unexpected argument)

/-- The first option that is required and not given. -/
def missingOption? (rules : List OptionRule) (values : List (String × String)) : Option String :=
  (rules.find? fun r => r.required && (values.lookup r.name).isNone).map (·.name)

/-- The task of a command with the values of its options. -/
def Verb.task (v : Verb) (values : List (String × String)) : Task :=
  let text (name : String) : String := (values.lookup name).getD ""
  let number (s : String) : Nat :=
    ((Number.readInteger (Number.signedRange 64) s).toOption.getD 0).toNat
  let endpoint : EndpointChoice :=
    ⟨values.lookup "host", (values.lookup "port").map number, values.lookup "user"⟩
  match v with
  | .waitInSync => .waitInSync endpoint
  | .waitResync => .waitResync endpoint
  | .waitChangeTracking => .waitChangeTracking endpoint
  | .backup => .backup (text "dbname")
  | .validate =>
    let size := Number.readInteger (Number.unsignedRange 64) (text "expected-tables")
    .validate (text "dbname") (size.toOption.getD 0).toNat
  | .segments => .segments

/-- Reads the arguments of a command. -/
def Verb.read (v : Verb) (arguments : List String) : Except UsageFault Request := do
  match ← readOptions v.options arguments.length arguments [] with
  | .help => return .help (.command v)
  | .values values =>
    match missingOption? v.options values with
    | some name => throw (.missing name)
    | none => return .perform (v.task values)

/-- The name of the command that shows help texts. -/
def helpCommand : String := "help"

/-- Reads the names that help is asked for. -/
def readTopics : List String → Except UsageFault Request
  | [] => .ok (.help .program)
  | [name] =>
    match Verb.ofName? name with
    | some v => .ok (.help (.command v))
    | none => if name = helpCommand then .ok (.help .help) else .error (.unknownCommand name)
  | _ :: extra :: _ => .error (.unknownCommand extra)

/-- What a command line asks for. -/
def Request.ofArguments : List String → Except UsageFault Request
  | [] => .error .noCommand
  | first :: rest =>
    match Verb.ofName? first with
    | some v => v.read rest
    | none =>
      if first = helpCommand then readTopics rest
      else if first = "--help" then .ok (.help .program)
      else if first = "--version" then .ok .version
      else if Text.startsWith first "--" then .error (.unexpected first)
      else if Text.startsWith first "-h" then .ok (.help .program)
      else if Text.startsWith first "-V" then .ok .version
      else .error (.unknownCommand first)

end ClusterFixture.CommandLine
