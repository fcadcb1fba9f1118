/-
The relation that a statement selects from, as a server reads its name.

A name is a word or stands between double quotes. A word is the longest run of letters, digits,
underscores and dollar signs; it does not start with a digit or a dollar sign, and its capital
letters are read as small ones. Every character outside of ASCII counts as a letter without a case.
Between quotes a character is read as it is, and two quotes are read as one. Some words name no
schema without quotes. Names that are longer than the server keeps, and comments between the parts
of a name, are not looked at here.
-/

import ClusterFixture.Sql.TableName

set_option autoImplicit false

namespace ClusterFixture.Sql

/-! ## Characters -/

/-- Whether a character can start a word. -/
def startsWord (c : Char) : Bool := c.isAlpha || c = '_' || 0x80 ≤ c.toNat

/-- Whether a character can go on in a word. -/
def continuesWord (c : Char) : Bool := startsWord c || c.isDigit || c = '$'

/-- The characters that separate the parts of a statement. -/
def spaces : List Char := [' ', '\t', '\n', '\x0b', '\x0c', '\r']

/-- Whether a character separates the parts of a statement. -/
def isSpace (c : Char) : Bool := spaces.contains c

/-! ## Names -/

/-- A word at the front of a text as it is read, and what follows it. -/
def readWord (cs : List Char) : Option (List Char × List Char) :=
  if cs.head?.any startsWord then
    some ((cs.takeWhile continuesWord).map Char.toLower, cs.dropWhile continuesWord)
  else none

/-- The name whose opening quote was just read, and what follows its closing quote. -/
def readQuoted : List Char → Option (List Char × List Char)
  | [] => none
  | '"' :: '"' :: rest => (readQuoted rest).map fun (name, rest) => ('"' :: name, rest)
  | '"' :: rest => some ([], rest)
  | c :: rest => (readQuoted rest).map fun (name, rest) => (c :: name, rest)

/-- A name at the front of a text, and what follows it. Nothing is called by no character at all,
and the words in `refused` need quotes. -/
def readName (refused : List String) (cs : List Char) : Option (String × List Char) :=
  match cs.dropWhile isSpace with
  | '"' :: rest => do
    let (name, rest) ← readQuoted rest
    if name.isEmpty then none else some (String.ofList name, rest)
  | cs => do
    let (word, rest) ← readWord cs
    if refused.contains (String.ofList word) then none else some (String.ofList word, rest)

/-! ## Relations -/

/-- The words that name no schema without quotes. -/
def refusedWords : List String := reservedWords ++ functionWords

/-- What follows a dot. -/
def readDot (cs : List Char) : Option (List Char) :=
  match cs.dropWhile isSpace with
  | '.' :: rest => some rest
  | _ => none

/-- Whether a name goes on: with one more part, or with arguments. -/
def goesOn (cs : List Char) : Bool :=
  (cs.dropWhile isSpace).head?.any fun c => c = '.' || c = '('

/-- The relation at the front of a text, called by its schema and its name. Any word can stand
behind the dot. -/
def readRelation (cs : List Char) : Option TableName := do
  let (schema, rest) ← readName refusedWords cs
  let rest ← readDot rest
  let (name, rest) ← readName [] rest
  if goesOn rest then none else some ⟨schema, name⟩

/-- What follows the first occurrence of a mark. -/
def behind (mark : List Char) : List Char → Option (List Char)
  | [] => none
  | c :: rest =>
    if mark.isPrefixOf (c :: rest) then some ((c :: rest).drop mark.length) else behind mark rest

/-- The relation that a statement selects from. -/
def selectedRelation? (statement : String) : Option TableName :=
  (behind " from ".toList statement.toList).bind readRelation

end ClusterFixture.Sql
