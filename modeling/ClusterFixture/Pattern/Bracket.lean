/-
Sets of characters in brackets.

A set lists characters, ranges, escapes, named classes and further sets; two such lists may be
joined by an operator for what lies in both, in the first only or in exactly one. A closing bracket
at the very start stands for itself, and so do hyphens there.
-/

import ClusterFixture.Pattern.Escape

set_option autoImplicit false

namespace ClusterFixture.Pattern

open ClusterFixture.Unicode (CodeRange)

/-! ## Named classes -/

/-- The ASCII classes that are written between colons. -/
def asciiClasses : List (String × List CodeRange) := [
  ("alnum", [(0x30, 0x39), (0x41, 0x5A), (0x61, 0x7A)]), ("alpha", [(0x41, 0x5A), (0x61, 0x7A)]),
  ("ascii", [(0x00, 0x7F)]), ("blank", [(0x09, 0x09), (0x20, 0x20)]),
  ("cntrl", [(0x00, 0x1F), (0x7F, 0x7F)]), ("digit", [(0x30, 0x39)]), ("graph", [(0x21, 0x7E)]),
  ("lower", [(0x61, 0x7A)]), ("print", [(0x20, 0x7E)]),
  ("punct", [(0x21, 0x2F), (0x3A, 0x40), (0x5B, 0x60), (0x7B, 0x7E)]), ("space", asciiSpace),
  ("upper", [(0x41, 0x5A)]), ("word", asciiWord),
  ("xdigit", [(0x30, 0x39), (0x41, 0x46), (0x61, 0x66)])]

/-- A named class, read after its opening bracket: its members, whether the others are meant, and
what follows; none where the bracket opens something else. -/
def namedClass? (cs : List Char) : Option (List CodeRange × Bool × List Char) := do
  let rest ← match cs with
    | ':' :: rest => some rest
    | _ => none
  let (negated, rest) := match rest with
    | '^' :: rest => (true, rest)
    | rest => (false, rest)
  let (name, rest) ← Text.cutAt ':' rest
  match rest with
  | ']' :: rest =>
    let members ← (asciiClasses.find? fun entry => entry.1 == String.ofList name).map (·.2)
    return (members, negated, rest)
  | _ => none

/-! ## Lists -/

/-- The operators on sets. -/
inductive SetOperator where
  | both
  | firstOnly
  | exactlyOne
  deriving DecidableEq, Repr

/-- What an operator makes of two sets. -/
def SetOperator.apply : SetOperator → List CodeRange → List CodeRange → List CodeRange
  | .both => Unicode.intersection
  | .firstOnly => Unicode.difference
  | .exactlyOne => Unicode.symmetricDifference

/-- A set while it is read. -/
structure Bracket where
  negated : Bool
  /-- What stands before the last operator, and how deep it is nested. -/
  left : Option (SetOperator × List CodeRange × Nat) := none
  /-- What was listed since. -/
  members : List CodeRange := []
  /-- The number of things listed since. -/
  count : Nat := 0
  /-- How deep they are nested. -/
  depth : Nat := 0

namespace Bracket

/-- One thing more. -/
def add (b : Bracket) (members : List CodeRange) (depth : Nat) : Bracket :=
  { b with members := b.members ++ members, count := b.count + 1, depth := max b.depth depth }

/-- All that was read so far, and how deep it is nested. -/
def total (b : Bracket) (f : Flags) : List CodeRange × Nat :=
  let depth := if 1 < b.count then b.depth + 1 else b.depth
  match b.left with
  | none => (b.members, depth)
  | some (op, left, leftDepth) =>
    (op.apply (f.fold left) (f.fold b.members), max leftDepth depth + 1)

/-- An operator. -/
def combine (b : Bracket) (f : Flags) (op : SetOperator) : Bracket :=
  let (left, depth) := b.total f
  { negated := b.negated, left := some (op, left, depth) }

end Bracket

/-! ## Reading -/

/-- One character or escape of a list. -/
def readElement (f : Flags) : List Char → Except PatternFault (Atom × List Char)
  | [] => .error .unclosedClass
  | '\\' :: rest => readEscape f rest
  | c :: rest => .ok (.char c, rest)

/-- The members of a list that an element stands for. -/
def elementMembers (f : Flags) : Atom → Except PatternFault (List CodeRange)
  | .char c =>
    if f.ascii && 0x7F < c.toNat then .error .unknownClass else .ok [(c.toNat, c.toNat)]
  | .set s => .ok s
  | .look _ => .error .badClassItem

/-- An end of a range. -/
def rangeEnd (f : Flags) : Atom → Except PatternFault Char
  | .char c => if f.ascii && 0x7F < c.toNat then .error .unknownClass else .ok c
  | _ => .error .badRange

/-- Whether a hyphen at the start of the text makes a range of what stands before and after it. -/
def startsRange (f : Flags) : List Char → Bool
  | '-' :: rest =>
    let next := if f.spaced then
        match rest.dropWhile Text.isBlank with
        | '#' :: rest => (rest.dropWhile Text.isBlank).head?
        | rest => rest.head?
      else rest.head?
    next != some ']' && next != some '-'
  | _ => false

/-- One character, escape or range of a list. -/
def readMember (f : Flags) (cs : List Char) :
    Except PatternFault (List CodeRange × List Char) := do
  let (first, rest) ← readElement f cs
  let rest := f.skip rest
  if rest.isEmpty then throw .unclosedClass
  if startsRange f rest then
    let (last, rest) ← readElement f (f.skip (rest.drop 1))
    let low ← rangeEnd f first
    let high ← rangeEnd f last
    if high < low then throw .badRange
    return ([(low.toNat, high.toNat)], rest)
  else return (← elementMembers f first, rest)

/-- The hyphens at the start of a list, and then a closing bracket if there was none. -/
def leadingMembers (f : Flags) : Nat → List Char → List CodeRange × List Char
  | 0, cs => ([], cs)
  | fuel + 1, cs =>
    match f.skip cs with
    | '-' :: rest =>
      let (members, rest) := leadingMembers f fuel rest
      ((0x2D, 0x2D) :: members, rest)
    | cs => ([], cs)

/-- What stands at the start of a set, behind its opening bracket. -/
def openBracket (f : Flags) (cs : List Char) : Bracket × List Char :=
  let (negated, cs) := match f.skip cs with
    | '^' :: rest => (true, rest)
    | cs => (false, cs)
  let (hyphens, cs) := leadingMembers f cs.length cs
  match hyphens, f.skip cs with
  | [], ']' :: rest => (({ negated } : Bracket).add [(0x5D, 0x5D)] 0, rest)
  | _, rest => ({ negated, members := hyphens, count := hyphens.length }, rest)

/-- Reads a set to its closing bracket: its members, how deep it is nested, and what follows. -/
def readBracket (f : Flags) :
    Nat → Bracket → List Char → Except PatternFault (List CodeRange × Nat × List Char)
  | 0, _, _ => .error .unclosedClass
  | fuel + 1, b, cs =>
    match f.skip cs with
    | [] => .error .unclosedClass
    | ']' :: rest => do
      let (members, depth) := b.total f
      return (← f.negateIf b.negated (f.fold members), depth, rest)
    | '[' :: rest =>
      match namedClass? rest with
      | some (members, negated, rest) => do
        readBracket f fuel (b.add (← f.negateIf negated (f.fold members)) 0) rest
      | none => do
        let (inner, rest) := openBracket f rest
        let (members, depth, rest) ← readBracket f fuel inner rest
        readBracket f fuel (b.add members (depth + 1)) rest
    | '&' :: '&' :: rest => readBracket f fuel (b.combine f .both) rest
    | '-' :: '-' :: rest => readBracket f fuel (b.combine f .firstOnly) rest
    | '~' :: '~' :: rest => readBracket f fuel (b.combine f .exactlyOne) rest
    | cs => do
      let (members, rest) ← readMember f cs
      readBracket f fuel (b.add members 0) rest

/-- Reads a set behind its opening bracket. -/
def readSet (f : Flags) (cs : List Char) : Except PatternFault (Expr × List Char) := do
  let (b, rest) := openBracket f cs
  let (members, depth, rest) ← readBracket f (cs.length + 1) b rest
  return (.bracket depth members, rest)

end ClusterFixture.Pattern
