/-
Anchors, tags and directives.

An anchor names a value for later, a tag says what it is. A tag is written in full between angle
brackets, or as a handle and a suffix. Directives stand in front of a document; one that is neither
of the version nor of tags counts as a tag directive without content.
-/

import ClusterFixture.Number.Integer
import ClusterFixture.Yaml.Cursor

set_option autoImplicit false

namespace ClusterFixture.Yaml

/-! ## Anchors -/

/-- The name behind the mark of an anchor or an alias, and the place behind it. -/
def takeName (c : Cursor) : Except YamlFault (String × Cursor) :=
  let (name, after) := (c.skip 1).span isAnchor
  if name.isEmpty then .error .emptyAnchor else .ok (String.ofList name, after)

/-! ## Tags -/

/-- The byte that a percent sign and two digits write. -/
def takeUriByte (c : Cursor) : Except YamlFault (Nat × Cursor) :=
  match c.rest with
  | '%' :: x :: y :: _ =>
    match Number.natIn? 16 [x, y] with
    | some n => .ok (n, c.skip 3)
    | none => .error .invalidTag
  | _ => .error .invalidTag

/-- How many bytes the first one announces, itself included. -/
def uriWidth? (n : Nat) : Option Nat :=
  if n < 0x80 then some 1
  else if 0xC0 ≤ n && n < 0xE0 then some 2
  else if 0xE0 ≤ n && n < 0xF0 then some 3
  else if 0xF0 ≤ n && n < 0xF8 then some 4
  else none

/-- The bytes that follow a first one, written behind it in base 256. -/
def takeUriTail : Nat → (code : Nat) → Cursor → Except YamlFault (Nat × Cursor)
  | 0, code, c => .ok (code, c)
  | n + 1, code, c => do
    let (b, c) ← takeUriByte c
    if b < 0x80 || 0xC0 ≤ b then throw .invalidTag
    takeUriTail n (code * 256 + b) c

/-- The character of the escape that is next; its number is that of all its bytes in base 256. -/
def takeUriEscape (c : Cursor) : Except YamlFault (Char × Cursor) := do
  let (b, c) ← takeUriByte c
  match uriWidth? b with
  | none => throw .invalidTag
  | some width =>
    let (code, c) ← takeUriTail (width - 1) b c
    if code.isValidChar then return (Char.ofNat code, c) else throw .invalidTag

/-- The characters from here on that satisfy a test, escapes resolved, and the place behind them. -/
def takeUri (test : Char → Bool) : Nat → Cursor → (done : List Char) →
    Except YamlFault (List Char × Cursor)
  | 0, c, done => .ok (done.reverse, c)
  | n + 1, c, done =>
    match c.rest with
    | [] => .ok (done.reverse, c)
    | x :: _ =>
      if !test x then .ok (done.reverse, c)
      else if x = '%' then do
        let (y, c) ← takeUriEscape c
        takeUri test n c (y :: done)
      else takeUri test n (c.skip 1) (x :: done)

/-- The handle that is next, with its closing mark if it has one. -/
def takeHandle (c : Cursor) : Except YamlFault (List Char × Cursor) :=
  if c.next ≠ '!' then .error .invalidTag
  else
    let (name, after) := (c.skip 1).span isName
    if after.next = '!' then .ok (('!' :: name) ++ ['!'], after.skip 1)
    else .ok ('!' :: name, after)

/-- Whether a handle is closed by a mark of its own. -/
def closesHandle (handle : List Char) : Bool := 2 ≤ handle.length && handle.getLast? == some '!'

/-- The tag whose mark is next, and the place behind it. -/
def takeTag (inFlow : Bool) (c : Cursor) : Except YamlFault (Token × Cursor) := do
  let (handle, suffix, after) ←
    if (c.rest.drop 1).head? = some '<' then do
      let (suffix, after) ← takeUri isUri c.rest.length (c.skip 2) []
      if after.next ≠ '>' then throw .invalidTag
      pure ([], suffix, after.skip 1)
    else do
      let (handle, after) ← takeHandle c
      let (suffix, after) ← takeUri isTag after.rest.length after []
      if closesHandle handle then
        if suffix.isEmpty then throw .invalidTag
        pure (handle, suffix, after)
      else
        let suffix := handle.drop 1 ++ suffix
        pure (if suffix.isEmpty then ([], ['!'], after) else (['!'], suffix, after))
  if endsWord after.rest || (inFlow && after.rest.head?.any isFlow) then
    return (.tag (String.ofList handle) (String.ofList suffix), after)
  else throw .invalidTag

/-! ## Directives -/

/-- The number of at most nine digits that is next, and the place behind it. -/
def takeVersionNumber (c : Cursor) : Except YamlFault Cursor :=
  let (digits, after) := c.span Char.isDigit
  if digits.isEmpty || 9 < digits.length then .error .invalidDirective else .ok after

/-- The leading part of tags that a directive gives for a handle. -/
def takeTagLead (c : Cursor) : Except YamlFault (List Char × Cursor) :=
  let x := c.next
  if x = '!' then takeUri isUri c.rest.length (c.skip 1) ['!']
  else if isTag x then takeUri isUri c.rest.length c []
  else .error .invalidTag

/-- The directive whose mark is next, and the beginning of the next line. -/
def takeDirective (c : Cursor) : Except YamlFault (Token × Cursor) := do
  let (name, after) := (c.skip 1).span isName
  if name.isEmpty || !endsWord after.rest then throw .invalidDirective
  let (token, after) ←
    if name = "YAML".toList then do
      let after ← takeVersionNumber after.pastBlanks
      if after.next ≠ '.' then throw .invalidDirective
      let after ← takeVersionNumber (after.skip 1)
      pure (.version, after)
    else if name = "TAG".toList then do
      let (handle, after) ← takeHandle after.pastBlanks
      if handle.length ≠ 1 && !closesHandle handle then throw .invalidTag
      let (lead, after) ← takeTagLead after.pastBlanks
      if !endsWord after.rest then throw .invalidTag
      pure (.tagDirective (String.ofList handle) (String.ofList lead), after)
    else pure (.tagDirective "" "", after.lineEnd)
  let (after, _) ← after.pastComment true
  if after.endsLine then return (token, after.pastBreak) else throw .trailingContent

end ClusterFixture.Yaml
