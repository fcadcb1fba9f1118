/-
Escapes in patterns: what a backslash and the characters after it stand for.
-/

import ClusterFixture.Pattern.Basic

set_option autoImplicit false

namespace ClusterFixture.Pattern

open ClusterFixture.Unicode (CodeRange)

/-! ## What can be wrong -/

/-- Why a text is no pattern. -/
inductive PatternFault where
  | unclosedGroup
  | unopenedGroup
  | unclosedClass
  | unclosedCount
  | badCount
  | nothingToRepeat
  | badEscape
  | badClassItem
  | badRange
  | badFlags
  | badGroupName
  | lookAround
  | backReference
  | unknownClass
  /-- The pattern could match a part of a character. -/
  | splitsCharacters
  | tooDeep
  | tooLarge
  deriving DecidableEq, Repr

/-- What is said of it. -/
def PatternFault.message : PatternFault → String
  | .unclosedGroup => "unclosed group"
  | .unopenedGroup => "unopened group"
  | .unclosedClass => "unclosed character class"
  | .unclosedCount => "unclosed counted repetition"
  | .badCount => "invalid repetition count"
  | .nothingToRepeat => "repetition operator missing expression"
  | .badEscape => "unrecognized escape sequence"
  | .badClassItem => "invalid escape sequence found in character class"
  | .badRange => "invalid character class range"
  | .badFlags => "unrecognized flag"
  | .badGroupName => "invalid capture group name"
  | .lookAround => "look-around, including look-ahead and look-behind, is not supported"
  | .backReference => "backreferences are not supported"
  | .unknownClass => "Unicode property not found"
  | .splitsCharacters => "pattern can match invalid UTF-8"
  | .tooDeep => "exceeds the limit on nesting"
  | .tooLarge => "exceeds the limit on size"

/-! ## Flags and blanks -/

/-- How a part of a pattern is read. -/
structure Flags where
  ignoreCase : Bool := false
  multiLine : Bool := false
  /-- Whether a dot stands for the end of a line too. -/
  dotAll : Bool := false
  /-- Whether lines may also end in a carriage return. -/
  returns : Bool := false
  /-- Whether only ASCII characters count as letters, digits and blanks. -/
  ascii : Bool := false
  /-- Whether blanks and comments are skipped. -/
  spaced : Bool := false
  deriving Repr

/-- The text after blanks and comments. -/
def skipSpaced (comment : Bool) : List Char → List Char
  | [] => []
  | c :: rest =>
    if comment then skipSpaced (c != '\n') rest
    else if Text.isBlank c then skipSpaced false rest
    else if c = '#' then skipSpaced true rest
    else c :: rest

/-- The text from where reading goes on. -/
def Flags.skip (f : Flags) (cs : List Char) : List Char :=
  if f.spaced then skipSpaced false cs else cs

/-! ## Sets -/

/-- A set with the other case of its letters, where case is ignored. -/
def Flags.fold (f : Flags) (set : List CodeRange) : List CodeRange :=
  if !f.ignoreCase then set
  else if f.ascii then Unicode.caseClosedAscii set
  else Unicode.caseClosed set

/-- A set, or all characters outside it. The outside of an ASCII set has parts of characters. -/
def Flags.negateIf (f : Flags) (negated : Bool) (set : List CodeRange) :
    Except PatternFault (List CodeRange) :=
  if !negated then .ok set
  else if f.ascii then .error .splitsCharacters
  else .ok (Unicode.complement set)

/-- The ASCII characters of a word. -/
def asciiWord : List CodeRange := [(0x30, 0x39), (0x41, 0x5A), (0x5F, 0x5F), (0x61, 0x7A)]

/-- The ASCII blanks. -/
def asciiSpace : List CodeRange := [(0x09, 0x0D), (0x20, 0x20)]

/-- The set of an escape for digits, blanks or characters of words. -/
def shorthand (f : Flags) (c : Char) : Except PatternFault (List CodeRange) :=
  let set := match c.toLower with
    | 'd' => if f.ascii then [(0x30, 0x39)] else Unicode.digitRanges
    | 's' => if f.ascii then asciiSpace else Unicode.spaceRanges
    | _ => if f.ascii then asciiWord else Unicode.wordRanges
  f.negateIf c.isUpper set

/-! ## Escapes -/

/-- What one element of a pattern stands for. -/
inductive Atom where
  | char (c : Char)
  | set (s : List CodeRange)
  | look (l : Look)
  deriving Repr

/-- The characters with a meaning of their own. -/
def metaChars : List Char :=
  ['\\', '.', '+', '*', '?', '(', ')', '|', '[', ']', '\x7b', '\x7d', '^', '$', '#', '&', '-', '~']

/-- Whether a backslash takes a character for itself. -/
def standsForItself (c : Char) : Bool :=
  metaChars.contains c
    || (c.toNat < 0x80 && !c.isAlphanum && c != '<' && c != '>')

/-- The character of a code point. -/
def charOf (n : Nat) : Except PatternFault Char :=
  if n.isValidChar then .ok (Char.ofNat n) else .error .badEscape

/-- So many hexadecimal digits, and what follows. -/
def hexDigits (f : Flags) : Nat → List Char → Except PatternFault (List Char × List Char)
  | 0, cs => .ok ([], cs)
  | n + 1, cs =>
    match f.skip cs with
    | [] => .error .badEscape
    | c :: rest =>
      if (Number.digitIn? 16 c).isSome then do
        let (digits, rest) ← hexDigits f n rest
        return (c :: digits, rest)
      else .error .badEscape

/-- The text up to a closing brace, and what follows it. -/
def upToBrace (f : Flags) : Nat → List Char → Option (List Char × List Char)
  | 0, _ => none
  | fuel + 1, cs =>
    match f.skip cs with
    | [] => none
    | c :: rest =>
      if c = '\x7d' then some ([], rest)
      else (upToBrace f fuel rest).map fun (inside, rest) => (c :: inside, rest)

/-- A character by its code point; `width` is the number of digits without braces, and there is at
least one between braces. Of a pattern of ASCII characters, two digits name a byte, which must be a
character by itself. -/
def hexEscape (f : Flags) (width : Nat) (cs : List Char) :
    Except PatternFault (Atom × List Char) := do
  let (digits, rest) ← match f.skip cs with
    | '\x7b' :: rest =>
      match upToBrace f (rest.length + 1) rest with
      | some ([], _) => .error .badEscape
      | some (digits, rest) => .ok (digits, rest)
      | none => .error .badEscape
    | cs => hexDigits f width cs
  match Number.natIn? 16 digits with
  | none => throw .badEscape
  | some n =>
    let c ← charOf n
    let braced := (f.skip cs).head? == some '\x7b'
    if f.ascii && width == 2 && !braced && 0x7F < n then throw .splitsCharacters
    return (.char c, rest)

/-- Cuts a text at the first `!=`. -/
def cutAtUnequal : List Char → Option (List Char × List Char)
  | [] => none
  | '!' :: '=' :: rest => some ([], rest)
  | c :: rest => (cutAtUnequal rest).map fun (left, right) => (c :: left, right)

/-- Cuts a text at its first colon, or else at its first equals sign. -/
def cutAtValue (cs : List Char) : Option (List Char × List Char) :=
  (Text.cutAt ':' cs).or (Text.cutAt '=' cs)

/-- A class of characters by its name. -/
def classEscape (f : Flags) (negated : Bool) (cs : List Char) :
    Except PatternFault (Atom × List Char) := do
  let (name, rest) ← match f.skip cs with
    | [] => .error .badEscape
    | '\x7b' :: rest =>
      match upToBrace f (rest.length + 1) rest with
      | some (name, rest) => .ok (name, rest)
      | none => .error .badEscape
    | c :: rest => if c = '\\' then .error .unknownClass else .ok ([c], rest)
  let (found, negated) := match cutAtUnequal name with
    | some (property, value) => (Unicode.classValued? property value, !negated)
    | none =>
      match cutAtValue name with
      | some (property, value) => (Unicode.classValued? property value, negated)
      | none => (Unicode.classNamed? name, negated)
  match found with
  | none => throw .unknownClass
  | some set =>
    if f.ascii then throw .unknownClass
    return (.set (← f.negateIf negated (f.fold set)), rest)

/-- Whether a character may stand in the name of an edge of words. -/
def isEdgeChar (c : Char) : Bool := c.isAlpha || c = '-'

/-- The name of an edge of words in braces, and what follows; none where a brace opens something
else. -/
def edgeName? (f : Flags) (cs : List Char) :
    Except PatternFault (Option (WordEdge × List Char)) :=
  match f.skip cs with
  | [] => .error .badEscape
  | c :: rest =>
    if !isEdgeChar c then .ok none
    else
      match upToBrace f (rest.length + 2) (c :: rest) with
      | none => .error .badEscape
      | some (name, rest) =>
        match String.ofList name with
        | "start" => .ok (some (.start, rest))
        | "end" => .ok (some (.stop, rest))
        | "start-half" => .ok (some (.startHalf, rest))
        | "end-half" => .ok (some (.stopHalf, rest))
        | _ => .error .badEscape

/-- An edge of words, perhaps of a kind that follows in braces. -/
def edgeEscape (f : Flags) (cs : List Char) : Except PatternFault (Atom × List Char) := do
  match cs with
  | '\x7b' :: rest =>
    match ← edgeName? f rest with
    | some (edge, rest) => return (.look (.word edge f.ascii), rest)
    | none => return (.look (.word .both f.ascii), cs)
  | _ => return (.look (.word .both f.ascii), cs)

/-- What follows a backslash. -/
def readEscape (f : Flags) : List Char → Except PatternFault (Atom × List Char)
  | [] => .error .badEscape
  | c :: rest =>
    if c.isDigit then .error .backReference
    else if standsForItself c then .ok (.char c, rest)
    else
      match c with
      | 'x' => hexEscape f 2 rest
      | 'u' => hexEscape f 4 rest
      | 'U' => hexEscape f 8 rest
      | 'p' => classEscape f false rest
      | 'P' => classEscape f true rest
      | 'd' | 's' | 'w' | 'D' | 'S' | 'W' => do return (.set (← shorthand f c), rest)
      | 'a' => .ok (.char '\x07', rest)
      | 'f' => .ok (.char '\x0c', rest)
      | 't' => .ok (.char '\t', rest)
      | 'n' => .ok (.char '\n', rest)
      | 'r' => .ok (.char '\r', rest)
      | 'v' => .ok (.char '\x0b', rest)
      | 'A' => .ok (.look .textStart, rest)
      | 'z' => .ok (.look .textEnd, rest)
      | 'b' => edgeEscape f rest
      | 'B' => .ok (.look (.word .neither f.ascii), rest)
      | '<' => .ok (.look (.word .start f.ascii), rest)
      | '>' => .ok (.look (.word .stop f.ascii), rest)
      | _ => .error .badEscape

end ClusterFixture.Pattern
