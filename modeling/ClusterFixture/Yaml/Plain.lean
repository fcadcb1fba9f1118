/-
Texts without quotes.

Such a text ends before a colon or a comment that blanks set off, before a bracket or comma of a
collection in brackets, and with the last line that is indented far enough. Inside it, blanks stay
as they are and ends of lines fold.
-/

import ClusterFixture.Yaml.Cursor

set_option autoImplicit false

namespace ClusterFixture.Yaml

/-- Whether the text goes on with the next character, which is no blank. -/
def continuesPlain (inFlow : Bool) : List Char → Bool
  | [] => false
  | x :: rest =>
    if x = ':' && (endsWord rest || (inFlow && (rest.head?.any isFlow))) then false
    else !(inFlow && isFlow x)

/-- How many characters of the text follow before a blank. -/
def plainWordLength (inFlow : Bool) : List Char → Nat
  | [] => 0
  | x :: rest =>
    if isBlank x || isBreak x || !continuesPlain inFlow (x :: rest) then 0
    else plainWordLength inFlow rest + 1

/-- The blanks and ends of lines between two words. -/
structure PlainGap where
  cursor : Cursor
  /-- The blanks on the line of the first word, in reverse. -/
  blanks : List Char
  /-- How many lines end. -/
  breaks : Nat

/-- Extends a gap as far as it goes. A tab may stand where a line has to be indented only if nothing
else follows on the line. -/
def PlainGap.extend (indent : Int) : Nat → PlainGap → Except YamlFault PlainGap
  | 0, g => .ok g
  | n + 1, g =>
    match g.cursor.rest with
    | [] => .ok g
    | x :: _ =>
      if isBlank x then
        if !g.cursor.leading then
          extend indent n { g with cursor := g.cursor.skipBlanks 1, blanks := x :: g.blanks }
        else if x = '\t' && (g.cursor.column : Int) < indent then do
          let (after, _) ← g.cursor.pastComment true
          if after.endsLine then extend indent n { g with cursor := after }
          else throw .tabIndentation
        else extend indent n { g with cursor := g.cursor.skipBlanks 1 }
      else if isBreak x then extend indent n ⟨g.cursor.pastBreak, [], g.breaks + 1⟩
      else .ok g

/-- The words of the text from here on, put before `done` in reverse; `between` is what separates
them from the earlier ones, in reverse. -/
def takePlainWords (inFlow : Bool) (indent : Int) : Nat → Cursor → (between done : List Char) →
    Except YamlFault (Cursor × List Char)
  | 0, c, _, done => .ok (c, done)
  | n + 1, c, between, done => do
    if c.atDocumentMark || c.next = '#' then return (c, done)
    if inFlow && c.next = '-' && (c.rest.drop 1).head?.any isFlow then throw .unexpectedCharacter
    let length := plainWordLength inFlow c.rest
    let (between, done) :=
      if length = 0 then (between, done)
      else ([], (c.rest.take length).reverse ++ (between ++ done))
    let c := c.skip length
    if !c.rest.head?.any fun x => isBlank x || isBreak x then return (c, done)
    let gap ← PlainGap.extend indent c.rest.length ⟨c, [], 0⟩
    let c := gap.cursor
    if !inFlow && (c.column : Int) < indent then return (c, done)
    let between := if gap.breaks = 0 then gap.blanks ++ between else foldBreaks gap.breaks
    takePlainWords inFlow indent n c between done

/-- The text without quotes that begins here, and the place behind it, where `indent` is the least
column of its further lines. -/
def takePlain (inFlow : Bool) (indent : Int) (c : Cursor) : Except YamlFault (String × Cursor) := do
  if inFlow && (c.column : Int) < indent then throw .indentation
  let (after, done) ← takePlainWords inFlow indent (c.rest.length + 1) c [] []
  return (String.ofList done.reverse, after)

end ClusterFixture.Yaml
