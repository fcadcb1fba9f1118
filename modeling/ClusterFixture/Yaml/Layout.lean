/-
The tokens of a YAML text.

A collection of a block is opened when its first line turns out to be indented further than what is
around it, and ended when a line is indented less. That a text was a key shows only at the colon
behind it; so the places where a key may have begun are kept, and the token of a key is put in front
of what came since. Outside brackets, such a key ends with its line and within 1024 characters.
-/

import ClusterFixture.Yaml.Block
import ClusterFixture.Yaml.Plain
import ClusterFixture.Yaml.Quoted
import ClusterFixture.Yaml.Tag

set_option autoImplicit false

namespace ClusterFixture.Yaml

/-! ## Where a text stands -/

/-- A place where a key may have begun. -/
structure KeyStart where
  possible : Bool
  /-- Whether nothing but a key can begin there. -/
  required : Bool
  index : Nat
  line : Nat
  column : Nat
  /-- How many tokens precede it. -/
  tokens : Nat
  deriving Repr

/-- No place at all. -/
def KeyStart.none : KeyStart := ⟨false, false, 0, 0, 0, 0⟩

/-- A column that later lines are measured by. -/
structure Indent where
  /-- The column that counted before. -/
  outer : Int
  /-- Whether a collection ends with it. -/
  ends : Bool
  deriving Repr

/-- A pair without braces among the items of a list in brackets. -/
inductive LonePair where
  | possible
  | inside
  deriving DecidableEq, Repr

/-- What is known in front of a token. -/
structure Layout where
  cursor : Cursor
  /-- The tokens so far, the last one first. -/
  tokens : List Token := []
  count : Nat := 0
  /-- Whether the last token is an anchor or a tag at the beginning of a line. -/
  propertyAtMargin : Bool := false
  /-- Whether a key may begin. -/
  keyAllowed : Bool := true
  /-- Where the last key may have begun, for the innermost brackets and those around them. -/
  keys : List KeyStart := [.none]
  /-- The column that lines are measured by. -/
  indent : Int := -1
  indents : List Indent := []
  /-- How many brackets are open. -/
  depth : Nat := 0
  /-- The place right behind a text in quotes or a closing bracket, where a colon needs no blank. -/
  adjacent : Nat := 0
  /-- Whether pairs belong to braces or to a marked key. -/
  inBraces : Bool := false
  /-- For each list in brackets, whether a pair without braces is open in it. -/
  lonePairs : List LonePair := []

namespace Layout

/-- Whether brackets are open. -/
def inFlow (s : Layout) : Bool := s.depth ≠ 0

/-- Whether a collection ends with the column that counts. -/
def inBlock (s : Layout) : Bool := s.indents.head?.any (·.ends)

/-- One more token. -/
def push (s : Layout) (t : Token) : Layout :=
  { s with tokens := t :: s.tokens, count := s.count + 1, propertyAtMargin := false }

/-- Puts a token in front of the last `n`. -/
def insertBefore : (n : Nat) → Token → List Token → List Token
  | n + 1, t, x :: rest => x :: insertBefore n t rest
  | _, t, rest => t :: rest

/-- Puts a token in front of all but the first `n`. -/
def insert (s : Layout) (n : Nat) (t : Token) : Layout :=
  { s with tokens := insertBefore (s.count - n) t s.tokens, count := s.count + 1 }

/-! ## Keys -/

/-- Keeps the place, where a key may begin. -/
def saveKey (s : Layout) : Layout :=
  if s.keyAllowed then
    let required := !s.inFlow && s.indent == (s.cursor.column : Int) && s.inBlock
    let key : KeyStart :=
      ⟨true, required, s.cursor.index, s.cursor.line, s.cursor.column, s.count⟩
    { s with keys := key :: s.keys.tail }
  else s

/-- Gives up the last place where a key may have begun. -/
def dropKey (s : Layout) : Except YamlFault Layout :=
  match s.keys with
  | [] => .ok s
  | key :: rest =>
    if key.possible && key.required then .error .keyWithoutValue
    else .ok { s with keys := { key with possible := false } :: rest }

/-- Gives up the places that a test finds. -/
def dropKeys (s : Layout) (test : KeyStart → Bool) : Except YamlFault Layout :=
  if s.keys.any fun key => key.possible && test key && key.required then .error .keyWithoutValue
  else .ok { s with
    keys := s.keys.map fun key => { key with possible := key.possible && !test key } }

/-- Gives up the places that are too far back for a key without brackets around it. -/
def dropStaleKeys (s : Layout) : Except YamlFault Layout :=
  if s.inFlow then .ok s
  else s.dropKeys fun key => key.line < s.cursor.line || key.index + 1024 < s.cursor.index

/-! ## Columns -/

/-- Opens a collection in the given column, unless one is open there; its token goes in front of all
but the first so many, or else to the end. -/
def openBlock (s : Layout) (column : Nat) (place? : Option Nat) (t : Token) : Layout :=
  if s.inFlow then s
  else
    let s := match s.indents with
      | i :: rest =>
        if s.indent ≤ (column : Int) && !i.ends then { s with indent := i.outer, indents := rest }
        else s
      | [] => s
    if s.indent < (column : Int) then
      let s := { s with indents := ⟨s.indent, true⟩ :: s.indents, indent := (column : Int) }
      match place? with
      | some n => s.insert n t
      | none => s.push t
    else s

/-- Ends the collections of columns that are further to the right, innermost first. -/
def closeBlocksIn (column : Int) : List Indent → Layout → Layout
  | [], s => s
  | i :: rest, s =>
    if column < s.indent then
      let s := { s with indent := i.outer, indents := rest }
      closeBlocksIn column rest (if i.ends then s.push .blockEnd else s)
    else s

/-- Ends the collections of columns that are further to the right, unless brackets are open. -/
def closeBlocks (s : Layout) (column : Int) : Layout :=
  if s.inFlow then s else closeBlocksIn column s.indents s

/-- Lets a value in a block begin one column further to the right at least. -/
def indentValue (s : Layout) : Layout :=
  if !s.inFlow && s.inBlock then
    { s with indents := ⟨s.indent, false⟩ :: s.indents, indent := s.indent + 1 }
  else s

/-- Forgets columns with which no collection ends. -/
def forgetValuesIn : List Indent → Layout → Layout
  | [], s => s
  | i :: rest, s =>
    if i.ends then s else forgetValuesIn rest { s with indent := i.outer, indents := rest }

/-- Forgets columns with which no collection ends. -/
def forgetValues (s : Layout) : Layout := forgetValuesIn s.indents s

/-! ## Collections in brackets -/

/-- Ends a pair without braces. -/
def endLonePair (s : Layout) : Layout :=
  match s.lonePairs with
  | .inside :: rest =>
    { s with inBraces := false, lonePairs := .possible :: rest }.push .flowMappingEnd
  | _ => s

/-- Blanks and a comment, tabs included. -/
def pastComment (s : Layout) : Except YamlFault Layout := do
  let (c, _) ← s.cursor.pastComment true
  return { s with cursor := c }

/-- One character further on. -/
def skip (s : Layout) : Layout := { s with cursor := s.cursor.skip 1 }

/-- An opening bracket or brace. -/
def openFlow (s : Layout) (isList : Bool) : Except YamlFault Layout := do
  let s := s.saveKey.indentValue
  if s.depth = 255 then throw .tooDeep
  let s := { s with keys := .none :: s.keys, depth := s.depth + 1, keyAllowed := true }
  let s := if isList then { s with lonePairs := .possible :: s.lonePairs }
    else { s with inBraces := true }
  let s ← s.skip.pastComment
  return s.push (if isList then .flowSequenceStart else .flowMappingStart)

/-- A closing bracket or brace. -/
def closeFlow (s : Layout) (isList : Bool) : Except YamlFault Layout := do
  let s ← s.dropKey
  let s := if s.inFlow then { s with keys := s.keys.tail, depth := s.depth - 1 } else s
  let s := { s with keyAllowed := false }
  let s := if isList then
      let s := s.endLonePair
      { s with lonePairs := s.lonePairs.tail }
    else s
  let s ← s.skip.pastComment
  let s := if s.inFlow then { s with adjacent := s.cursor.index } else s
  return s.push (if isList then .flowSequenceEnd else .flowMappingEnd)

/-- A comma. -/
def separateFlow (s : Layout) : Except YamlFault Layout := do
  let s ← s.dropKey
  let s ← { s with keyAllowed := true }.endLonePair.skip.pastComment
  return s.push .flowEntry

/-! ## Marks of a block -/

/-- The mark of an item. -/
def entry (s : Layout) : Except YamlFault Layout := do
  if s.inFlow || !s.keyAllowed then throw .entryMisplaced
  if s.propertyAtMargin && s.cursor.column == 0 && -1 < s.indent then throw .indentation
  let s := s.skip.openBlock s.cursor.column none .blockSequenceStart
  let (c, blanks) ← s.cursor.pastComment true
  if blanks.contains '\t' && c.next = '-' && endsWord (c.rest.drop 1) then throw .tabIndentation
  let s := { s with cursor := c }
  let s := if c.rest.head?.any fun x => isBreak x || isFlow x then s.indentValue else s
  let s ← s.dropKey
  return { s with keyAllowed := true }.push .blockEntry

/-- The mark of a key. -/
def key (s : Layout) : Except YamlFault Layout := do
  let s ←
    if s.inFlow then pure { s with inBraces := true }
    else if s.keyAllowed then pure (s.openBlock s.cursor.column none .blockMappingStart)
    else throw .keyMisplaced
  let s ← s.dropKey
  let s := { s with keyAllowed := !s.inFlow }.skip
  if !s.cursor.rest.head?.any fun x => x = ' ' || isBreak x then throw .keyMisplaced
  let (c, _) := s.cursor.pastKeyGapWithin s.cursor.rest.length false
  if c.next = '\t' then throw .tabIndentation
  return { s with cursor := c }.push .key

/-- The mark of a value. -/
def value (s : Layout) : Except YamlFault Layout := do
  let start := s.cursor
  let key := s.keys.headD .none
  let alone := !s.lonePairs.isEmpty && !s.inBraces
  let s := if alone then { s with lonePairs := .inside :: s.lonePairs.tail } else s
  let s := s.skip
  let s ←
    if s.cursor.next = '\t' then do
      let (c, blanks) ← s.cursor.pastComment true
      if !blanks.contains ' ' && isName c.next then throw .tabIndentation
      pure { s with cursor := c }
    else pure s
  let s ←
    if key.possible then do
      let s := s.insert key.tokens .key
      if alone && key.line < start.line then throw .keyBroken
      let s := if alone then s.insert key.tokens .flowMappingStart else s
      let s := (s.openBlock key.column (some key.tokens) .blockMappingStart).indentValue
      pure { s with keys := { key with possible := false } :: s.keys.tail, keyAllowed := false }
    else do
      let s := if alone then s.push .flowMappingStart else s
      if !s.inFlow && !s.keyAllowed then throw .valueMisplaced
      let s := (s.openBlock start.column none .blockMappingStart).indentValue
      pure { s with keyAllowed := !s.inFlow }
  return s.push .value

/-! ## Values -/

/-- An anchor, an alias or a tag. -/
def property (s : Layout) (take : Cursor → Except YamlFault (Token × Cursor)) :
    Except YamlFault Layout := do
  let s := s.saveKey
  let (t, c) ← take s.cursor
  let named := match t with
    | .alias _ => false
    | _ => s.cursor.column == 0
  return { { s with cursor := c, keyAllowed := false }.push t with propertyAtMargin := named }

/-- A text in quotes. -/
def quoted (s : Layout) (single : Bool) : Except YamlFault Layout := do
  let s := s.saveKey
  let (text, c) ← takeQuoted single s.inFlow s.indent s.cursor
  let (c, broken) ← c.pastGap (!s.indents.isEmpty) s.indent
  return { s with cursor := c, keyAllowed := broken && !s.inFlow, adjacent := c.index }.push
    (.text text)

/-- A text without quotes. -/
def plain (s : Layout) : Except YamlFault Layout := do
  let s := s.saveKey.forgetValues
  let (text, c) ← takePlain s.inFlow (s.indent + 1) s.cursor
  return { s with cursor := c, keyAllowed := c.leading }.push (.plain text)

/-- A text of whole lines. -/
def block (s : Layout) (literal : Bool) : Except YamlFault Layout := do
  let s := s.saveKey.forgetValues
  let (text, c) ← takeBlock literal s.indent s.cursor
  return { s with cursor := c, keyAllowed := true }.push (.text text)

/-! ## Documents -/

/-- Ends all collections, where a document ends. -/
def closeDocument (s : Layout) : Except YamlFault Layout := do
  let s ← (s.closeBlocks (-1)).dropKey
  return { s with keyAllowed := false }

/-- The mark of a document. -/
def documentMark (s : Layout) (ends : Bool) : Except YamlFault Layout := do
  let s ← s.closeDocument
  let s := { s with cursor := s.cursor.skip 3 }.push (if ends then .documentEnd else .documentStart)
  if ends then
    let s ← s.pastComment
    if s.cursor.endsLine then return s else throw .trailingContent
  else return s

/-- A directive. -/
def directive (s : Layout) : Except YamlFault Layout := do
  let s ← s.closeDocument
  let (t, c) ← takeDirective s.cursor
  return { s with cursor := c }.push t

/-! ## Tokens -/

/-- Reads the token that begins here, where the text does not end. -/
def token (s : Layout) : Except YamlFault Layout :=
  let rest := s.cursor.rest
  let more := rest.drop 1
  if s.cursor.column == 0 && s.cursor.next = '%' then s.directive
  else if s.cursor.atDocumentMark then s.documentMark (s.cursor.next = '.')
  else if (s.cursor.column : Int) < s.indent then .error .indentation
  else match s.cursor.next with
    | '[' => s.openFlow true
    | '\x7b' => s.openFlow false
    | ']' => s.closeFlow true
    | '\x7d' => s.closeFlow false
    | ',' => s.separateFlow
    | '*' => s.property fun c => do
      let (name, c) ← takeName c
      return (.alias name, c)
    | '&' => s.property fun c => do
      let (name, c) ← takeName c
      return (.anchor name, c)
    | '!' => s.property (takeTag s.inFlow)
    | '\'' => s.quoted true
    | '"' => s.quoted false
    | '%' => .error .unexpectedCharacter
    | '@' => .error .unexpectedCharacter
    | '\x60' => .error .unexpectedCharacter
    | '-' => if endsWord more then s.entry else s.plain
    | '?' => if endsWord more then s.key else s.plain
    | ':' =>
      if endsWord more
          || (s.inFlow && (more.head?.any isFlow || s.cursor.index == s.adjacent)) then s.value
      else s.plain
    | '|' => if s.inFlow then s.plain else s.block true
    | '>' => if s.inFlow then s.plain else s.block false
    | _ => s.plain

/-- Goes on to the next token and reads it; whether the text ended instead. -/
def step (s : Layout) : Except YamlFault (Layout × Bool) := do
  let (c, broken) ← s.cursor.pastGap (!s.indents.isEmpty) s.indent
  let s := { s with cursor := c, keyAllowed := s.keyAllowed || (broken && !s.inFlow) }
  let s ← s.dropStaleKeys
  let s := s.closeBlocks c.column
  if c.rest.isEmpty then
    let s ← s.dropKeys fun _ => true
    return (s.closeBlocks (-1), true)
  else return (← s.token, false)

/-- Reads at most so many tokens. -/
def readTokens : Nat → Layout → Except YamlFault Layout
  | 0, s => .ok s
  | n + 1, s => do
    let (s, ended) ← s.step
    if ended then return s else readTokens n s

end Layout

/-- The tokens of a text; a NUL ends it. -/
def tokens (text : List Char) : Except YamlFault (List Token) := do
  let text := text.takeWhile (· ≠ '\x00')
  let s ← Layout.readTokens (text.length + 1) { cursor := .start text }
  return s.tokens.reverse

end ClusterFixture.Yaml
