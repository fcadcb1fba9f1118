/-
Patterns and where they match.

A pattern matches a text if some part of the text has its form. Only that is asked for, so a pattern
acts on sets of places: from the places where a part of the text may begin it leads to all places
where that part may end. A set of places is a number whose bit `p` says that place `p` is in it.

A pattern can be too deep or too large. How deep one is can be read off it. How large a matcher for
it gets depends on the engine that makes the matcher; `Expr.size` is an estimate, and nothing is
proved with it.
-/

import ClusterFixture.Unicode.RangeSet

set_option autoImplicit false

namespace ClusterFixture.Pattern

open ClusterFixture.Unicode (CodeRange)

/-! ## Patterns -/

/-- Where a boundary of a word is. -/
inductive WordEdge where
  | both
  | neither
  | start
  | stop
  | startHalf
  | stopHalf
  deriving DecidableEq, Repr

/-- A condition on a place. -/
inductive Look where
  | textStart
  | textEnd
  /-- The start of a line; lines may also end in a carriage return. -/
  | lineStart (returns : Bool)
  | lineEnd (returns : Bool)
  /-- An edge of words of ASCII characters or of all. -/
  | word (edge : WordEdge) (ascii : Bool)
  deriving DecidableEq, Repr

/-- A pattern. -/
inductive Expr where
  | empty
  /-- A change of flags, which matches where it stands. -/
  | directive
  /-- One character of a set. -/
  | one (set : List CodeRange)
  /-- One character of a set in brackets, with the depth of the brackets inside. -/
  | bracket (depth : Nat) (set : List CodeRange)
  | look (l : Look)
  | sequence (items : List Expr)
  | choice (branches : List Expr)
  /-- A group, and whether its part of the text is kept. -/
  | group (kept : Bool) (body : Expr)
  | repeated (body : Expr) (least : Nat) (most : Option Nat)
  deriving Repr, Inhabited

/-! ## Places -/

/-- Whether a character may be part of a word. -/
def isWordChar (ascii : Bool) (c : Char) : Bool :=
  if ascii then c.isAlphanum || c = '_' else Unicode.holds Unicode.wordRanges c.toNat

/-- Whether a condition holds between two characters. -/
def Look.holds (before after : Option Char) : Look → Bool
  | .textStart => before.isNone
  | .textEnd => after.isNone
  | .lineStart false => before.isNone || before == some '\n'
  | .lineStart true =>
    before.isNone || before == some '\n' || (before == some '\r' && after != some '\n')
  | .lineEnd false => after.isNone || after == some '\n'
  | .lineEnd true =>
    after.isNone || after == some '\r' || (after == some '\n' && before != some '\r')
  | .word edge ascii =>
    let left := before.any (isWordChar ascii)
    let right := after.any (isWordChar ascii)
    match edge with
    | .both => left != right
    | .neither => left == right
    | .start => !left && right
    | .stop => left && !right
    | .startHalf => !left
    | .stopHalf => !right

/-- The set of the places below `n` with a property. -/
def places (n : Nat) (holds : Nat → Bool) : Nat :=
  (List.range n).foldl (fun set p => if holds p then set ||| (1 <<< p) else set) 0

/-- The places before a character of a set. -/
def placesBefore (text : Array Char) (set : List CodeRange) : Nat :=
  places text.size fun p => text[p]?.any fun c => Unicode.holds set c.toNat

/-- The places where a condition holds. -/
def placesOf (text : Array Char) (l : Look) : Nat :=
  places (text.size + 1) fun p => l.holds (if p = 0 then none else text[p - 1]?) text[p]?

/-! ## Matching -/

/-- Takes a step again and again. -/
def again (step : Nat → Nat) : Nat → Nat → Nat
  | 0, set => set
  | n + 1, set => again step n (step set)

/-- What is reached in at most so many steps. -/
def within (step : Nat → Nat) : Nat → Nat → Nat
  | 0, set => set
  | n + 1, set => set ||| within step n (step set)

mutual

/-- The places where a part of the text may end that begins at a place of the set. Steps lead
onward only, so that more of them than there are places reach nothing new. -/
def Expr.ends (text : Array Char) : Expr → Nat → Nat
  | .empty, set => set
  | .directive, set => set
  | .one members, set => (set &&& placesBefore text members) <<< 1
  | .bracket _ members, set => (set &&& placesBefore text members) <<< 1
  | .look l, set => set &&& placesOf text l
  | .sequence items, set => endsInTurn text items set
  | .choice branches, set => endsOfAny text branches set
  | .group _ body, set => body.ends text set
  | .repeated body least most, set =>
    let enough := text.size + 1
    let rest := match most with
      | some most => min (most - least) enough
      | none => enough
    within (fun places => body.ends text places) rest
      (again (fun places => body.ends text places) (min least enough) set)

/-- The places where the last of several parts may end. -/
def endsInTurn (text : Array Char) : List Expr → Nat → Nat
  | [], set => set
  | item :: rest, set => endsInTurn text rest (item.ends text set)

/-- The places where one of several parts may end. -/
def endsOfAny (text : Array Char) : List Expr → Nat → Nat
  | [], _ => 0
  | branch :: rest, set => branch.ends text set ||| endsOfAny text rest set

end

/-- Whether a pattern matches a part of a text. -/
def Expr.matches (e : Expr) (text : String) : Bool :=
  let cs := text.toList.toArray
  e.ends cs (places (cs.size + 1) fun _ => true) != 0

/-! ## Limits -/

mutual

/-- How deep a pattern is nested. -/
def Expr.depth : Expr → Nat
  | .bracket inner _ => inner + 1
  | .sequence items => depthOf items + 1
  | .choice branches => depthOf branches + 1
  | .group _ body => body.depth + 1
  | .repeated body _ _ => body.depth + 1
  | _ => 0

/-- How deep the deepest of several patterns is nested. -/
def depthOf : List Expr → Nat
  | [] => 0
  | e :: rest => max e.depth (depthOf rest)

end

/-- The deepest nesting allowed. -/
def depthLimit : Nat := 250

/-- The bytes that one state of a matcher takes. -/
def stateSize : Nat := 32

/-- The bytes that a character of a set takes in a matcher, by estimate. -/
def setSize (set : List CodeRange) : Nat :=
  if set.all fun r => r.2 < 0x80 then stateSize + 8 * set.length
  else match set with
    | [(first, last)] => if first = last then 3 * stateSize else 8 * stateSize
    | _ => 60 * set.length + stateSize

mutual

/-- Whether a pattern can only match the empty text. -/
def Expr.isVoid : Expr → Bool
  | .empty => true
  | .directive => true
  | .one _ => false
  | .bracket _ _ => false
  | .look _ => true
  | .sequence items => areVoid items
  | .choice branches => areVoid branches
  | .group _ body => body.isVoid
  | .repeated body _ most => body.isVoid || most == some 0

/-- Whether several patterns can only match the empty text. -/
def areVoid : List Expr → Bool
  | [] => true
  | e :: rest => e.isVoid && areVoid rest

end

/-- The bytes that a matcher takes, by estimate, for a body of the given size repeated. -/
def repeatedSize (size least : Nat) : Option Nat → Nat
  | none => if least = 0 then size + 2 * stateSize else least * size + stateSize
  | some most => least * size + (most - least) * (size + stateSize) + stateSize

mutual

/-- The bytes that a matcher takes, by estimate. -/
def Expr.size : Expr → Nat
  | .empty => stateSize
  | .directive => stateSize
  | .one set => setSize set
  | .bracket _ set => setSize set
  | .look _ => stateSize
  | .sequence items => sizeOfAll items
  | .choice branches => sizeOfAll branches + 2 * stateSize
  | .group kept body => body.size + (if kept then 2 * stateSize else 0)
  | .repeated body least most =>
    if body.isVoid then repeatedSize body.size (min least 1) (some (min (most.getD 1) 1))
    else repeatedSize body.size least most

/-- The bytes that a matcher takes for several patterns, by estimate. -/
def sizeOfAll : List Expr → Nat
  | [] => 0
  | e :: rest => e.size + sizeOfAll rest

end

/-- The bytes that a matcher may take. -/
def sizeLimit : Nat := 10485760

end ClusterFixture.Pattern
