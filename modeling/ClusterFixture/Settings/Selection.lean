/-
A selection: settings with lists, which variables can give as well.

Every member may be missing. Where a variable gives one of the lists, commas separate its items.
-/

import ClusterFixture.Settings.Loading

set_option autoImplicit false

namespace ClusterFixture.Settings

/-- Names and tags to choose by. -/
structure Selection where
  names : List String := []
  tags : List String := []
  /-- How deep tags are looked for. -/
  depth : Nat := 0
  count : Int := 0
  flag : Bool := false
  label : String := ""
  deriving DecidableEq, Repr

namespace Selection

/-- The keys of the lists. -/
def listKeys : List String := ["names", "nested.tags"]

/-- Reads the tags and their depth. -/
def readNested : Located → Except ValueFault (List String × Nat) :=
  let texts := Located.listOf Located.text
  layeredForm.readRecord "Nested"
    [Form.member "tags" texts, Form.member "depth" (Located.unsigned 8)]
    fun r => do
      let tags ← r.withDefault "tags" [] texts
      let depth ← r.withDefault "depth" 0 (Located.unsigned 8)
      return (tags, depth)

/-- The members of a selection, and how each is read. -/
def members : List (Form.Member Located ValueFault) :=
  [Form.member "names" (Located.listOf Located.text), Form.member "nested" readNested,
    Form.member "count" Located.integer, Form.member "flag" Located.flag,
    Form.member "label" Located.text]

/-- A selection from what its members give. -/
def build (r : Form.Reading Located ValueFault) : Except ValueFault Selection := do
  let names ← r.withDefault "names" [] (Located.listOf Located.text)
  let (tags, depth) ← r.withDefault "nested" ([], 0) readNested
  let count ← r.withDefault "count" 0 Located.integer
  let flag ← r.withDefault "flag" false Located.flag
  let label ← r.withDefault "label" "" Located.text
  return { names, tags, depth, count, flag, label }

/-- Reads a selection. -/
def ofValue : Located → Except ValueFault Selection :=
  layeredForm.readRecord "Lists" members build

/-- Loads a selection from a directory for an environment. -/
def loadFrom (s : Sources) (directory : String) (e : Environment) : Except LoadFault Selection :=
  s.loadFrom listKeys ofValue directory e

end Selection

end ClusterFixture.Settings
