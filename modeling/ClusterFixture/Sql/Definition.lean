/-
What statements that create and drop something call it, as a server reads the name.

A plain name is a word of any letter case that needs no quotes; a server reads it in small letters.
A table may be called by its name alone, and is then created in the schema that the server has for
such tables. Only the forms of the statements that the fixture sends are read here, and as in all
names there is no limit to their length.
-/

import ClusterFixture.Sql.Relation

set_option autoImplicit false

namespace ClusterFixture.Sql

/-! ## Plain names -/

/-- A name as a server reads it without quotes. -/
def folded (name : String) : String := String.ofList (name.toList.map Char.toLower)

/-- Whether the characters are a word, of any letter case. -/
def isWord (cs : List Char) : Bool := cs.head?.any startsWord && cs.all continuesWord

/-- A name that is read without quotes, though maybe not as it is spelled. -/
structure IsPlainName (name : String) : Prop where
  word : isWord name.toList = true
  allowed : folded name ∉ refusedWords

/-! ## Schemas -/

/-- Whether nothing but space is left of a statement. -/
def isOver (cs : List Char) : Bool := (cs.dropWhile isSpace).isEmpty

/-- The schema that a statement creates. -/
def createdSchema? (statement : String) : Option String := do
  let cs ← "create schema ".toList.isPrefixOf? statement.toList
  let (name, rest) ← readName refusedWords cs
  if isOver rest then some name else none

/-- The schema that a statement drops, with all that is in it. -/
def droppedSchema? (statement : String) : Option String := do
  let cs ← "drop schema ".toList.isPrefixOf? statement.toList
  let (name, rest) ← readName refusedWords cs
  let (word, rest) ← readWord (rest.dropWhile isSpace)
  if word = "cascade".toList && isOver rest then some name else none

/-! ## Tables -/

/-- The name of a new table at the front of a text. One without a schema goes into `home`, and any
word can stand behind the dot. -/
def readNewTable (home : String) (cs : List Char) : Option TableName := do
  let (first, rest) ← readName refusedWords cs
  match readDot rest with
  | none => some ⟨home, first⟩
  | some rest =>
    let (name, rest) ← readName [] rest
    if (readDot rest).isSome then none else some ⟨first, name⟩

/-- The table that a statement creates. -/
def createdTable? (home statement : String) : Option TableName := do
  readNewTable home (← "create table ".toList.isPrefixOf? statement.toList)

/-- A table as a scenario spells it: by its name, and by its schema or without. -/
structure Spelling where
  schema : Option String := none
  name : String
  deriving DecidableEq, Repr

namespace Spelling

/-- How it is written. -/
def text (s : Spelling) : String :=
  match s.schema with
  | none => s.name
  | some schema => schema ++ "." ++ s.name

/-- All its names are plain. -/
structure IsPlain (s : Spelling) : Prop where
  schema : ∀ schema, s.schema = some schema → IsPlainName schema
  name : IsPlainName s.name

/-- The table that a server takes it for. -/
def meant (home : String) (s : Spelling) : TableName :=
  ⟨(s.schema.map folded).getD home, folded s.name⟩

end Spelling

end ClusterFixture.Sql
