/-
A place in a YAML text: what follows it, its line and its column.

A line ends with a line feed, a carriage return, or both in that order. Blanks in front of
everything else on a line indent it; the place keeps in mind whether it is still among them.
-/

import ClusterFixture.Yaml.Token

set_option autoImplicit false

namespace ClusterFixture.Yaml

/-- A place in a text. -/
structure Cursor where
  /-- What follows the place. -/
  rest : List Char
  /-- How many characters precede it. -/
  index : Nat
  line : Nat
  column : Nat
  /-- Whether only blanks precede it on its line. -/
  leading : Bool
  deriving Repr

namespace Cursor

/-- The beginning of a text. -/
def start (text : List Char) : Cursor := ⟨text, 0, 1, 0, true⟩

/-- The next character; a NUL at the end of the text, which has none elsewhere. -/
def next (c : Cursor) : Char := c.rest.headD '\x00'

/-- The place so many blanks further on. -/
def skipBlanks (c : Cursor) (n : Nat) : Cursor :=
  { c with rest := c.rest.drop n, index := c.index + n, column := c.column + n }

/-- The place so many characters further on, of the same line and no blanks. -/
def skip (c : Cursor) (n : Nat) : Cursor :=
  { c.skipBlanks n with leading := c.leading && n == 0 }

/-- The characters from the place on that satisfy a test, and the place behind them. -/
def span (c : Cursor) (test : Char → Bool) : List Char × Cursor :=
  let taken := c.rest.takeWhile test
  (taken, c.skip taken.length)

/-- The blanks from the place on that satisfy a test, and the place behind them. -/
def spanBlanks (c : Cursor) (test : Char → Bool) : List Char × Cursor :=
  let taken := c.rest.takeWhile test
  (taken, c.skipBlanks taken.length)

/-- The place behind the blanks. -/
def pastBlanks (c : Cursor) : Cursor := (c.spanBlanks isBlank).2

/-- The place behind so many characters that end a line. -/
def newLine (c : Cursor) (n : Nat) : Cursor :=
  ⟨c.rest.drop n, c.index + n, c.line + 1, 0, true⟩

/-- The beginning of the next line, where the line ends here. -/
def pastBreak (c : Cursor) : Cursor :=
  match c.rest with
  | '\r' :: '\n' :: _ => c.newLine 2
  | x :: _ => if isBreak x then c.newLine 1 else c
  | [] => c

/-- The end of the line. -/
def lineEnd (c : Cursor) : Cursor := (c.span fun x => !isBreak x).2

/-- Whether the text or the line ends here. -/
def endsLine (c : Cursor) : Bool := Yaml.endsLine c.rest

/-- Whether a document begins or ends here. -/
def atDocumentMark (c : Cursor) : Bool := c.column == 0 && isDocumentMark c.rest

/-! ## What lies between tokens -/

/-- The place behind blanks and a comment, and the blanks; tabs count as blanks only where they are
allowed. -/
def pastComment (c : Cursor) (tabs : Bool) : Except YamlFault (Cursor × List Char) :=
  let (blanks, c) := c.spanBlanks fun x => x = ' ' || (tabs && x = '\t')
  if c.rest.head? != some '#' then .ok (c, blanks)
  else if blanks.isEmpty then .error .commentUnspaced
  else .ok (c.lineEnd, blanks)

/-- The next place where a token can begin, and whether it is on another line. Inside a block, a tab
may stand where a line has to be indented only if nothing else follows on the line. -/
def pastGapWithin : Nat → (inBlock : Bool) → (indent : Int) → (broken : Bool) → Cursor →
    Except YamlFault (Cursor × Bool)
  | 0, _, _, broken, c => .ok (c, broken)
  | n + 1, inBlock, indent, broken, c =>
    match c.rest with
    | [] => .ok (c, broken)
    | x :: _ =>
      if x = '\t' && inBlock && c.leading && (c.column : Int) < indent then do
        let (after, _) ← c.pastComment true
        if after.endsLine then pastGapWithin n inBlock indent broken after
        else throw .tabIndentation
      else if isBlank x then pastGapWithin n inBlock indent broken (c.skipBlanks 1)
      else if isBreak x then pastGapWithin n inBlock indent true c.pastBreak
      else if x = '#' then pastGapWithin n inBlock indent broken c.lineEnd
      else .ok (c, broken)

/-- The next place where a token can begin, and whether it is on another line. -/
def pastGap (inBlock : Bool) (indent : Int) (c : Cursor) : Except YamlFault (Cursor × Bool) :=
  pastGapWithin c.rest.length inBlock indent false c

/-- The place behind the spaces, ends of lines and comments after the mark of a key, and whether it
is on another line; the first of them must be a space or the end of a line. -/
def pastKeyGapWithin : Nat → (broken : Bool) → Cursor → Cursor × Bool
  | 0, broken, c => (c, broken)
  | n + 1, broken, c =>
    match c.rest with
    | [] => (c, broken)
    | x :: _ =>
      if x = ' ' then pastKeyGapWithin n broken (c.skipBlanks 1)
      else if isBreak x then pastKeyGapWithin n true c.pastBreak
      else if x = '#' then pastKeyGapWithin n broken c.lineEnd
      else (c, broken)

end Cursor

/-! ## Folding -/

/-- What stands for the ends of so many lines: one of a single line joins with a space, of several
all but the first are kept. -/
def foldBreaks (n : Nat) : List Char :=
  if n = 1 then [' '] else List.replicate (n - 1) '\n'

end ClusterFixture.Yaml
