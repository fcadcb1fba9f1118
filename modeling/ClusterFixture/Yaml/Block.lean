/-
Texts of whole lines, set off by indentation.

The header tells whether ends of lines fold, how many spaces indent the lines, and what becomes of
the ends behind the last line: one is kept, or none, or all. Without a number in the header, the
lines in front of the first that is not empty and that line itself tell how far the text is
indented.
-/

import ClusterFixture.Yaml.Cursor

set_option autoImplicit false

namespace ClusterFixture.Yaml

/-- What becomes of the ends of lines behind the last line of a text. -/
inductive Chomping where
  | clip
  | strip
  | keep
  deriving DecidableEq, Repr

/-! ## Headers -/

/-- What a sign in a header says. -/
def chomping? : Char → Option Chomping
  | '+' => some .keep
  | '-' => some .strip
  | _ => none

/-- What a digit in a header says. -/
def indentDigit? (x : Char) : Option Nat :=
  if x.isDigit then some (x.toNat - '0'.toNat) else none

/-- The header behind the mark of a text: a sign and a digit, either of which may come first. -/
def takeBlockHeader (c : Cursor) : Except YamlFault (Chomping × Nat × Cursor) :=
  let digit (chomping : Chomping) (c : Cursor) : Chomping × Option Nat × Cursor :=
    match indentDigit? c.next with
    | some d => (chomping, some d, c.skip 1)
    | none => (chomping, none, c)
  let (chomping, number?, c) :=
    match chomping? c.next with
    | some chomping => digit chomping (c.skip 1)
    | none =>
      match digit .clip c with
      | (_, some d, c) =>
        match chomping? c.next with
        | some chomping => (chomping, some d, c.skip 1)
        | none => (.clip, some d, c)
      | header => header
  if number? = some 0 then .error .invalidBlockHeader else .ok (chomping, number?.getD 0, c)

/-! ## Indentation -/

/-- The place behind at most so many columns of spaces on each line, empty lines passed over, and
how many those were. -/
def pastIndent (indent : Nat) : Nat → Cursor → (breaks : Nat) → Cursor × Nat
  | 0, c, breaks => (c, breaks)
  | n + 1, c, breaks =>
    let spaces := (c.rest.take (indent - c.column)).takeWhile (· = ' ')
    let c := c.skipBlanks spaces.length
    if c.rest.head?.any isBreak then pastIndent indent n c.pastBreak (breaks + 1) else (c, breaks)

/-- The place behind all spaces on each line, empty lines passed over, how many those were, and the
greatest column reached. -/
def pastFirstIndent : Nat → Cursor → (breaks widest : Nat) → Cursor × Nat × Nat
  | 0, c, breaks, widest => (c, breaks, widest)
  | n + 1, c, breaks, widest =>
    let c := (c.spanBlanks (· = ' ')).2
    let widest := max widest c.column
    if c.rest.head?.any isBreak then pastFirstIndent n c.pastBreak (breaks + 1) widest
    else (c, breaks, widest)

/-! ## Lines -/

/-- The lines of a text that are read. -/
structure BlockLines where
  cursor : Cursor
  /-- The text, in reverse. -/
  done : List Char
  /-- Whether the end of the last line is not yet in the text. -/
  broken : Bool
  /-- How many empty lines follow the last line. -/
  breaks : Nat
  /-- Whether the last line begins with a blank. -/
  blank : Bool

/-- Reads lines that begin in the given column. Ends of lines fold only between lines that begin
with no blank. -/
def BlockLines.extend (literal : Bool) (indent : Nat) : Nat → BlockLines → BlockLines
  | 0, b => b
  | n + 1, b =>
    let c := b.cursor
    if c.column ≠ indent || c.rest.isEmpty || (indent = 0 && isDocumentMark c.rest) then b
    else
      let blank := isBlank c.next
      let newlines := List.replicate b.breaks '\n'
      let between :=
        if !literal && b.broken && !b.blank && !blank then
          if b.breaks = 0 then [' '] else newlines
        else if b.broken then '\n' :: newlines
        else newlines
      let (line, after) := c.span fun x => !isBreak x
      let done := line.reverse ++ (between ++ b.done)
      if after.rest.isEmpty then ⟨after, done, false, 0, blank⟩
      else
        let (next, breaks) := pastIndent indent after.rest.length after.pastBreak 0
        extend literal indent n ⟨next, done, true, breaks, blank⟩

/-- The text of lines whose mark is next, and the place behind it; `parent` is the column of the
collection around it. -/
def takeBlock (literal : Bool) (parent : Int) (c : Cursor) :
    Except YamlFault (String × Cursor) := do
  let (chomping, increment, header) ← takeBlockHeader (c.skip 1)
  let (header, _) ← header.pastComment true
  if !header.endsLine then throw .invalidBlockHeader
  let first := header.pastBreak
  if first.next = '\t' then throw .tabIndentation
  let (lines, breaks, indent) :=
    if increment = 0 then
      let (lines, breaks, widest) := pastFirstIndent (first.rest.length + 1) first 0 0
      let indent := max widest (parent + 1).toNat
      (lines, breaks, if 0 < parent then max indent 1 else indent)
    else
      let indent := if 0 ≤ parent then parent.toNat + increment else increment
      let (lines, breaks) := pastIndent indent (first.rest.length + 1) first 0
      (lines, breaks, indent)
  if lines.rest.isEmpty then
    let kept :=
      if chomping = .strip || lines.line = c.line then 0
      else if chomping = .clip then 1
      else max breaks 1
    return (String.ofList (List.replicate kept '\n'), lines)
  if lines.column < indent && parent < lines.column then throw .indentation
  let start : BlockLines := ⟨lines, [], false, breaks, false⟩
  let b := start.extend literal indent (lines.rest.length + 1)
  let tail :=
    (if chomping ≠ .strip then
      (if b.broken then ['\n'] else [])
        ++ (if b.cursor.rest.isEmpty && max indent 1 ≤ b.cursor.column then ['\n'] else [])
    else [])
    ++ (if chomping = .keep then List.replicate b.breaks '\n' else [])
  return (String.ofList (b.done.reverse ++ tail), b.cursor)

end ClusterFixture.Yaml
