/-
Reading patterns.

A pattern is read from left to right. Groups that are open stand on a stack, each with what was read
before it and with the flags that hold again behind it.
-/

import ClusterFixture.Pattern.Bracket

set_option autoImplicit false

namespace ClusterFixture.Pattern

/-! ## Open groups -/

/-- A group that is open. -/
structure OpenGroup where
  /-- The flags that hold behind the group. -/
  flags : Flags
  kept : Bool
  /-- The branches before the one that the group stands in, the last first. -/
  branches : List Expr
  /-- What stands before the group in its branch, the last first. -/
  items : List Expr

/-- A pattern while it is read. -/
structure Reader where
  flags : Flags := {}
  groups : List OpenGroup := []
  branches : List Expr := []
  items : List Expr := []
  /-- The names of groups so far. -/
  names : List String := []

/-- The parts of a branch, the last first, as one pattern. -/
def sequenceOf : List Expr → Expr
  | [] => .empty
  | [single] => single
  | items => .sequence items.reverse

namespace Reader

/-- One part more. -/
def add (r : Reader) (e : Expr) : Reader := { r with items := e :: r.items }

/-- The branches read so far as one pattern. -/
def body (r : Reader) : Expr :=
  match r.branches with
  | [] => sequenceOf r.items
  | branches => .choice ((sequenceOf r.items :: branches).reverse)

/-- A bar between two branches. -/
def nextBranch (r : Reader) : Reader :=
  { r with branches := sequenceOf r.items :: r.branches, items := [] }

/-- The start of a group under the given flags. -/
def openGroup (r : Reader) (kept : Bool) (flags : Flags) : Reader :=
  { r with
    flags, branches := [], items := [],
    groups := ⟨r.flags, kept, r.branches, r.items⟩ :: r.groups }

/-- The end of a group. -/
def closeGroup (r : Reader) : Except PatternFault Reader :=
  match r.groups with
  | [] => .error .unopenedGroup
  | g :: groups => .ok { r with
      flags := g.flags, branches := g.branches,
      items := .group g.kept r.body :: g.items, groups }

/-- The last part repeated. -/
def repeatLast (r : Reader) (least : Nat) (most : Option Nat) : Except PatternFault Reader :=
  match r.items with
  | [] => .error .nothingToRepeat
  | .empty :: _ => .error .nothingToRepeat
  | .directive :: _ => .error .nothingToRepeat
  | e :: rest => .ok { r with items := .repeated e least most :: rest }

end Reader

/-! ## Flags -/

/-- The flags with one set or taken away. -/
def Flags.change (f : Flags) (on : Bool) : Char → Option Flags
  | 'i' => some { f with ignoreCase := on }
  | 'm' => some { f with multiLine := on }
  | 's' => some { f with dotAll := on }
  | 'R' => some { f with returns := on }
  | 'u' => some { f with ascii := !on }
  | 'x' => some { f with spaced := on }
  | 'U' => some f
  | _ => none

/-- Reads letters of flags up to a colon or a closing parenthesis; `seen` are the letters so far,
and `on` says whether they set flags. -/
def readFlags (f : Flags) (on : Bool) (seen : List Char) :
    List Char → Except PatternFault (Flags × Bool × List Char)
  | [] => .error .badFlags
  | c :: rest =>
    if c = ':' || c = ')' then
      if seen.head? == some '-' || (c = ')' && seen.isEmpty) then .error .badFlags
      else .ok (f, c = ')', rest)
    else if seen.contains c then .error .badFlags
    else if c = '-' then readFlags f false (c :: seen) rest
    else
      match f.change on c with
      | some f => readFlags f on (c :: seen) rest
      | none => .error .badFlags

/-! ## Groups -/

/-- Whether a character may stand in the name of a group. -/
def isNameChar (first : Bool) (c : Char) : Bool :=
  let letter := Unicode.holds (Unicode.property "alphabetic") c.toNat
  if first then c = '_' || letter
  else c = '_' || c = '.' || c = '[' || c = ']' || letter
    || Unicode.holds (["nd", "nl", "no"].flatMap Unicode.category) c.toNat

/-- Reads the name of a group behind its opening angle. -/
def readName (r : Reader) (cs : List Char) : Except PatternFault (Reader × List Char) := do
  match Text.cutAt '>' cs with
  | none => throw .badGroupName
  | some ([], _) => throw .badGroupName
  | some (first :: more, rest) =>
    let name := String.ofList (first :: more)
    if !isNameChar true first || !more.all (isNameChar false) || r.names.contains name then
      throw .badGroupName
    return ({ r with names := name :: r.names }, rest)

/-- Reads the start of a group behind its opening parenthesis, or a change of flags. -/
def readGroup (r : Reader) (cs : List Char) : Except PatternFault (Reader × List Char) := do
  match r.flags.skip cs with
  | '?' :: '=' :: _ => throw .lookAround
  | '?' :: '!' :: _ => throw .lookAround
  | '?' :: '<' :: '=' :: _ => throw .lookAround
  | '?' :: '<' :: '!' :: _ => throw .lookAround
  | '?' :: 'P' :: '<' :: rest =>
    let (r, rest) ← readName r rest
    return (r.openGroup true r.flags, rest)
  | '?' :: '<' :: rest =>
    let (r, rest) ← readName r rest
    return (r.openGroup true r.flags, rest)
  | '?' :: rest =>
    let (flags, isDirective, rest) ← readFlags r.flags true [] rest
    if isDirective then return ({ r with flags := flags }.add .directive, rest)
    else return (r.openGroup false flags, rest)
  | rest => return (r.openGroup true r.flags, rest)

/-! ## Counts -/

/-- The largest count. -/
def largestCount : Nat := Number.twoTo 32 - 1

/-- The digits at the start of a text, and what follows them. -/
def countDigits (f : Flags) : Nat → List Char → List Char × List Char
  | 0, cs => ([], cs)
  | fuel + 1, cs =>
    match cs with
    | c :: rest =>
      if c.isDigit then
        let (digits, rest) := countDigits f fuel (f.skip rest)
        (c :: digits, rest)
      else ([], cs)
    | [] => ([], [])

/-- Reads a count with blanks around it; none where there is no digit. -/
def readCount (f : Flags) (cs : List Char) : Except PatternFault (Option Nat × List Char) := do
  let (digits, rest) := countDigits f cs.length (cs.dropWhile Text.isBlank)
  let rest := f.skip (rest.dropWhile Text.isBlank)
  if digits.isEmpty then return (none, rest)
  match Number.natIn? 10 digits with
  | some n => if n ≤ largestCount then return (some n, rest) else throw .badCount
  | none => throw .badCount

/-- Skips the mark of a repetition that prefers fewer. -/
def skipLazy : List Char → List Char
  | '?' :: rest => rest
  | cs => cs

/-- Reads the counts of a repetition behind its opening brace. -/
def readCounts (r : Reader) (cs : List Char) : Except PatternFault (Reader × List Char) := do
  let cs := r.flags.skip cs
  if cs.isEmpty then throw .unclosedCount
  let (least, rest) ← readCount r.flags cs
  let (least, most, rest) ← match rest with
    | ',' :: rest => do
      let rest := r.flags.skip rest
      match least, rest with
      | _, [] => throw .unclosedCount
      | some n, '\x7d' :: _ => pure (n, none, rest)
      | some n, _ =>
        match ← readCount r.flags rest with
        | (some m, rest) => pure (n, some m, rest)
        | (none, _) => throw .badCount
      | none, _ => throw .badCount
    | _ =>
      match least with
      | some n => pure (n, some n, rest)
      | none => throw .badCount
  match rest with
  | '\x7d' :: rest =>
    if most.any (· < least) then throw .badCount
    return (← r.repeatLast least most, skipLazy (r.flags.skip rest))
  | _ => throw .unclosedCount

/-! ## Patterns -/

/-- The pattern of one character. -/
def charExpr (f : Flags) (c : Char) : Expr :=
  if f.ascii && 0x7F < c.toNat then .one [(c.toNat, c.toNat)]
  else .one (f.fold [(c.toNat, c.toNat)])

/-- The pattern of an escape. -/
def atomExpr (f : Flags) : Atom → Expr
  | .char c => charExpr f c
  | .set s => .one s
  | .look l => .look l

/-- The pattern of a dot. -/
def dotExpr (f : Flags) : Except PatternFault Expr :=
  if f.ascii then .error .splitsCharacters
  else
    let ends : List Unicode.CodeRange := if f.dotAll then [] else if f.returns then
      [(0x0A, 0x0A), (0x0D, 0x0D)] else [(0x0A, 0x0A)]
    .ok (.one (Unicode.complement ends))

/-- Reads to the end of a pattern. -/
def readAll : Nat → Reader → List Char → Except PatternFault Expr
  | 0, _, _ => .error .unclosedGroup
  | fuel + 1, r, cs =>
    let f := r.flags
    match f.skip cs with
    | [] => if r.groups.isEmpty then .ok r.body else .error .unclosedGroup
    | c :: rest =>
      match c with
      | '(' => do
        let (r, rest) ← readGroup r rest
        readAll fuel r rest
      | ')' => do readAll fuel (← r.closeGroup) rest
      | '|' => readAll fuel r.nextBranch rest
      | '[' => do
        let (e, rest) ← readSet f rest
        readAll fuel (r.add e) rest
      | '?' => do readAll fuel (← r.repeatLast 0 (some 1)) (skipLazy rest)
      | '*' => do readAll fuel (← r.repeatLast 0 none) (skipLazy rest)
      | '+' => do readAll fuel (← r.repeatLast 1 none) (skipLazy rest)
      | '\x7b' => do
        let (r, rest) ← readCounts r rest
        readAll fuel r rest
      | '\\' => do
        let (a, rest) ← readEscape f rest
        readAll fuel (r.add (atomExpr f a)) rest
      | '.' => do readAll fuel (r.add (← dotExpr f)) rest
      | '^' =>
        let l := if f.multiLine then Look.lineStart f.returns else .textStart
        readAll fuel (r.add (.look l)) rest
      | '$' =>
        let l := if f.multiLine then Look.lineEnd f.returns else .textEnd
        readAll fuel (r.add (.look l)) rest
      | c => readAll fuel (r.add (charExpr f c)) rest

end Pattern

/-- The pattern that a text writes. -/
def Pattern.ofText (text : String) : Except Pattern.PatternFault Pattern.Expr := do
  let cs := text.toList
  let e ← Pattern.readAll (cs.length + 1) {} cs
  if Pattern.depthLimit < e.depth then throw .tooDeep
  else if Pattern.sizeLimit < e.size then throw .tooLarge
  else return e

end ClusterFixture
