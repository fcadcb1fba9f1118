/-
Texts in quotes.

In single quotes a quote is written twice and nothing else is special. In double quotes a backslash
begins an escape. In both, a line may end inside the text: blanks around the end are dropped, and
the ends fold. An escaped end of a line joins the lines with nothing between them.
-/

import ClusterFixture.Number.Integer
import ClusterFixture.Yaml.Cursor

set_option autoImplicit false

namespace ClusterFixture.Yaml

/-! ## Escapes -/

/-- What a letter behind a backslash stands for. -/
def escaped? : Char → Option Char
  | '0' => some '\x00'
  | 'a' => some '\x07'
  | 'b' => some '\x08'
  | 't' => some '\t'
  | '\t' => some '\t'
  | 'n' => some '\n'
  | 'v' => some '\x0b'
  | 'f' => some '\x0c'
  | 'r' => some '\r'
  | 'e' => some '\x1b'
  | ' ' => some ' '
  | '"' => some '"'
  | '/' => some '/'
  | '\\' => some '\\'
  | 'N' => some '\u0085'
  | '_' => some '\u00a0'
  | 'L' => some '\u2028'
  | 'P' => some '\u2029'
  | _ => none

/-- How many digits of a code point follow a letter behind a backslash. -/
def codeWidth? : Char → Option Nat
  | 'x' => some 2
  | 'u' => some 4
  | 'U' => some 8
  | _ => none

/-- The character of a code point that exactly so many hexadecimal digits write. -/
def codePoint? (width : Nat) (digits : List Char) : Option Char := do
  let n ← Number.natIn? 16 digits
  if digits.length = width && n.isValidChar then some (Char.ofNat n) else none

/-- The character of the escape whose backslash is next, and the place behind it. -/
def takeEscape (c : Cursor) : Except YamlFault (Char × Cursor) :=
  match c.rest.drop 1 with
  | [] => .error .invalidEscape
  | x :: digits =>
    match escaped? x, codeWidth? x with
    | some y, _ => .ok (y, c.skip 2)
    | none, some width =>
      match codePoint? width (digits.take width) with
      | some y => .ok (y, c.skip (2 + width))
      | none => .error .invalidEscape
    | none, none => .error .invalidEscape

/-! ## Parts of a text -/

/-- The part of a text up to a blank, the end of a line or the closing quote, put before `done` in
reverse; whether an escaped end of a line ended it. -/
def takeQuotedWord (single : Bool) : Nat → Cursor → (done : List Char) →
    Except YamlFault (Cursor × List Char × Bool)
  | 0, c, done => .ok (c, done, false)
  | n + 1, c, done =>
    match c.rest with
    | [] => .ok (c, done, false)
    | x :: rest =>
      if isBlank x || isBreak x then .ok (c, done, false)
      else if single then
        if x ≠ '\'' then takeQuotedWord single n (c.skip 1) (x :: done)
        else if rest.head? = some '\'' then takeQuotedWord single n (c.skip 2) ('\'' :: done)
        else .ok (c, done, false)
      else if x = '"' then .ok (c, done, false)
      else if x = '\\' then
        if rest.any (fun _ => true) && endsLine rest then
          .ok ((c.skip 1).pastBreak, done, true)
        else do
          let (y, after) ← takeEscape c
          takeQuotedWord single n after (y :: done)
      else takeQuotedWord single n (c.skip 1) (x :: done)

/-- The blanks and ends of lines between two parts of a text. -/
structure QuotedGap where
  cursor : Cursor
  /-- Whether the second part is on another line. -/
  broken : Bool
  /-- The blanks on the line of the first part, in reverse. -/
  blanks : List Char
  /-- How many lines end. -/
  breaks : Nat

/-- Extends a gap as far as it goes. Where lines have to be indented, a tab does not do it. -/
def QuotedGap.extend (indent : Int) : Nat → QuotedGap → Except YamlFault QuotedGap
  | 0, g => .ok g
  | n + 1, g =>
    match g.cursor.rest with
    | [] => .ok g
    | x :: _ =>
      if isBlank x then
        if !g.broken then
          extend indent n { g with cursor := g.cursor.skipBlanks 1, blanks := x :: g.blanks }
        else if x = '\t' && (g.cursor.column : Int) < indent then .error .tabIndentation
        else extend indent n { g with cursor := g.cursor.skipBlanks 1 }
      else if isBreak x then
        extend indent n ⟨g.cursor.pastBreak, true, [], g.breaks + 1⟩
      else .ok g

/-! ## Texts -/

/-- The text up to the closing quote, put before `done` in reverse, and the place of the quote. -/
def takeQuotedParts (single : Bool) (indent : Int) : Nat → Cursor → (done : List Char) →
    Except YamlFault (Cursor × List Char)
  | 0, _, _ => .error .unclosedQuote
  | n + 1, c, done => do
    if c.atDocumentMark || c.rest.isEmpty then throw .unclosedQuote
    if (c.column : Int) < indent then throw .indentation
    let (c, done, joined) ← takeQuotedWord single c.rest.length c done
    if c.rest.head? = some (if single then '\'' else '"') then return (c, done)
    let gap ← QuotedGap.extend indent c.rest.length ⟨c, joined, [], 0⟩
    let between :=
      if !gap.broken then gap.blanks
      else if joined then List.replicate gap.breaks '\n'
      else foldBreaks gap.breaks
    takeQuotedParts single indent n gap.cursor (between ++ done)

/-- The text in quotes that begins here, and the place behind it. What follows on the line may only
go on with a collection in brackets or make the text a key. -/
def takeQuoted (single : Bool) (inFlow : Bool) (indent : Int) (c : Cursor) :
    Except YamlFault (String × Cursor) := do
  let (after, done) ← takeQuotedParts single indent (c.rest.length + 1) (c.skip 1) []
  let (after, _) ← (after.skip 1).pastComment true
  let x := after.next
  let closes := after.endsLine || (inFlow && (x = ',' || x = ']' || x = '\x7d'))
    || (x = ':' && (inFlow || c.line == after.line))
  if closes then return (String.ofList done.reverse, after)
  else throw .trailingContent

end ClusterFixture.Yaml
