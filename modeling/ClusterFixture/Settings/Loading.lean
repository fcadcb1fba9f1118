/-
Loading settings from files and variables.

Three layers are laid over each other: the base file of a directory, the file of the environment,
and the variables whose names begin with the lead of settings. The base file must be there, the file
of the environment may be missing. A variable's name gives a place, two underscores between the
names of its steps.
-/

import ClusterFixture.FileTree
import ClusterFixture.Settings.Environment
import ClusterFixture.Settings.Reading
import ClusterFixture.Yaml.Tree

set_option autoImplicit false

namespace ClusterFixture.Settings

open ClusterFixture.Text (Bytes)

/-! ## Faults -/

/-- Why settings cannot be loaded. -/
inductive LoadFault where
  | environment (e : UnknownEnvironment)
  | noFile (path : String)
  | unreadable (f : FileFault)
  /-- A file that is no table of values. -/
  | unintelligible (origin : Origin)
  | value (f : ValueFault)
  deriving DecidableEq, Repr

/-- The kinds of trouble with loading. -/
inductive LoadFaultKind where
  | file
  | parse
  | spelling
  | other
  deriving DecidableEq, Repr

namespace LoadFault

/-- The kind of a fault. -/
def kind : LoadFault → LoadFaultKind
  | .environment _ => .other
  | .noFile _ => .file
  | .unreadable _ => .file
  | .unintelligible _ => .parse
  | .value f => if f.isSpelling then .spelling else .other

/-- What is said of it. -/
def message : LoadFault → String
  | .environment e => e.message
  | .noFile path => "configuration file \"" ++ path ++ "\" not found"
  | .unreadable f => f.message
  | .unintelligible origin => "not a table of values in " ++ origin.name
  | .value f => f.message

end LoadFault

/-! ## Layers of files -/

/-- The name of a member that a key spells. -/
def keyName? : Yaml.Node → Option String
  | .text s => some s
  | .integer n => some (Number.decimal n)
  | _ => none

mutual

/-- The value of a node, found in the given place. Every number must be finite or none, and every
key a text or an integer. -/
def Value.ofNode? (o : Origin) : Yaml.Node → Option Value
  | .null => some (.scalar (some o) .nothing)
  | .invalid => some (.scalar (some o) .nothing)
  | .boolean b => some (.scalar (some o) (.flag b))
  | .integer n => some (.scalar (some o) (.integer n))
  | .real spelling =>
    (Number.readDecimal spelling).toOption.map fun x => .scalar (some o) (.number x)
  | .text s => some (.scalar (some o) (.text s))
  | .sequence items => (itemsOfNodes? o items).map (.list (some o))
  | .mapping members => (membersOfNodes? o members []).map (.table (some o))

/-- The items of a list. -/
def itemsOfNodes? (o : Origin) : List Yaml.Node → Option (List Value)
  | [] => some []
  | n :: rest => do return (← Value.ofNode? o n) :: (← itemsOfNodes? o rest)

/-- The members of a table, put behind those already there. -/
def membersOfNodes? (o : Origin) :
    List (Yaml.Node × Yaml.Node) → List (String × Value) → Option (List (String × Value))
  | [], done => some done
  | (k, n) :: rest, done => do
    let name ← keyName? k
    let v ← Value.ofNode? o n
    membersOfNodes? o rest (Value.putMember name v done)

end

/-- The layer that a text holds; a text without content holds an empty one. -/
def Layer.ofYaml? (o : Origin) (text : String) : Option Layer :=
  match Yaml.read text with
  | .ok none => some []
  | .ok (some (.mapping members)) => membersOfNodes? o members []
  | _ => none

/-- Bytes without the mark of their encoding. -/
def withoutMark (bs : Bytes) : Bytes :=
  if [0xEF, 0xBB, 0xBF].isPrefixOf bs then bs.drop 3 else bs

/-! ## Layers of variables -/

/-- What the names of variables that settings are taken from begin with. -/
def variableLead : String := "app_"

/-- A variable's text as a value, where lists are known by their keys: a truth value or a number if
it spells one, or else a list if its key is one of those. -/
def interpreted (listKeys : List String) (key text : String) : Value :=
  let o := some Origin.environment
  let word := Text.lower text
  if word = "true" then .scalar o (.flag true)
  else if word = "false" then .scalar o (.flag false)
  else match Number.readInteger (Number.signedRange 64) text, Number.readDecimal text with
    | .ok n, _ => .scalar o (.integer n)
    | _, .ok x => .scalar o (.number x)
    | _, _ =>
      if listKeys.contains key then
        .list o ((Text.split text ',').map fun s => .scalar o (.text s))
      else .scalar o (.text text)

/-- The layer of variables. Only if any key is known to hold a list, texts are interpreted. -/
def Layer.ofVariables (listKeys : List String) (bindings : List (String × String)) : Layer :=
  let listKeys := listKeys.map Text.lower
  bindings.filterMap fun (name, text) =>
    let name := Text.lower name
    if Text.startsWith name variableLead then
      let key := Text.replace (String.ofList (name.toList.drop variableLead.length)) "__" "."
      some (key, if listKeys.isEmpty then .scalar (some .environment) (.text text)
        else interpreted listKeys key text)
    else none

/-! ## Loading -/

/-- What settings are loaded from. -/
structure Sources where
  files : FileTree
  /-- The working directory, as a path. -/
  directory : String
  bindings : List (String × String) := []

namespace Sources

/-- Whether a path leads to a file. -/
def isFile (s : Sources) (path : String) : Bool :=
  match s.files.stat (Path.parts s.directory) path with
  | .ok (.file _ _) => true
  | _ => false

/-- Where the values of a file are said to come from: its path from the working directory. -/
def origin (s : Sources) (path : String) : Origin :=
  let whole := Path.join s.directory path
  .file (Text.joinWith "/" (Path.relativeTo (Path.parts s.directory) (Path.parts whole)))

/-- The paths that a file may have: its own, and those with an ending after it. -/
def spellings (path : String) : List String := [path, path ++ ".yaml", path ++ ".yml"]

/-- The path under which a file is found. -/
def found? (s : Sources) (path : String) : Option String := (spellings path).find? s.isFile

/-- The text of a file, and where it was found. -/
def readFile (s : Sources) (path : String) : Except LoadFault (String × Origin) :=
  match s.found? path with
  | none => .error (.noFile path)
  | some file =>
    match s.files.read (Path.parts s.directory) file with
    | .ok bs => .ok (Text.ofUtf8Lenient (withoutMark bs), s.origin file)
    | .error f => .error (.unreadable f)

/-- The layer of a text. -/
def parse (text : String) (o : Origin) : Except LoadFault Layer :=
  match Layer.ofYaml? o text with
  | some layer => .ok layer
  | none => .error (.unintelligible o)

/-- The layer of a file that must be there. -/
def fileLayer (s : Sources) (path : String) : Except LoadFault Layer := do
  let (text, o) ← s.readFile path
  parse text o

/-- The layer of a file; one that cannot be read has an empty one. -/
def optionalLayer (s : Sources) (path : String) : Except LoadFault Layer :=
  match s.readFile path with
  | .ok (text, o) => parse text o
  | .error _ => .ok []

variable {α : Type}

/-- Reads a whole. -/
def readWhole (read : Located → Except ValueFault α) (v : Value) : Except LoadFault α :=
  (read (.whole v)).mapError .value

/-- The file that all environments share. -/
def baseFile : String := "base.yaml"

/-- The layers for an environment, laid over each other. -/
def whole (s : Sources) (listKeys : List String) (directory : String) (e : Environment) :
    Except LoadFault Value := do
  let base ← s.fileLayer (Path.join directory baseFile)
  let overlay ← s.optionalLayer (Path.join directory e.fileName)
  return (Layer.ofVariables listKeys s.bindings).over (overlay.over (base.over .empty))

/-- Loads from a directory for an environment. -/
def loadFrom (s : Sources) (listKeys : List String) (read : Located → Except ValueFault α)
    (directory : String) (e : Environment) : Except LoadFault α := do
  readWhole read (← s.whole listKeys directory e)

/-- The directory of settings below the working directory. -/
def settingsDirectory : String := "configuration"

/-- All files that settings may come from. -/
def settingsFiles : List String :=
  (baseFile :: [Environment.prod, .staging, .dev].map Environment.fileName).flatMap fun name =>
    spellings (Path.join settingsDirectory name)

/-- Loads for the environment that a variable names. -/
def load (s : Sources) (listKeys : List String) (read : Located → Except ValueFault α) :
    Except LoadFault α := do
  let e ← (Environment.ofVariable (s.bindings.lookup Environment.variableName)).mapError
    .environment
  s.loadFrom listKeys read (Path.join s.directory settingsDirectory) e

/-- Loads the settings of a harness from a directory for an environment. -/
def loadHarnessFrom (s : Sources) (directory : String) (e : Environment) :
    Except LoadFault Harness :=
  s.loadFrom [] layeredForm.harness directory e

/-- Loads the settings of a harness for the environment that a variable names. -/
def loadHarness (s : Sources) : Except LoadFault Harness := s.load [] layeredForm.harness

/-- Loads a single file. -/
def loadFile (s : Sources) (path : String) (read : Located → Except ValueFault α) :
    Except LoadFault α := do
  readWhole read ((← s.fileLayer path).over .empty)

end Sources

end ClusterFixture.Settings
