/-
The tokens of a statement, as a server reads it.

A statement is read character by character, and what has been begun of a token is all that is
remembered. A value stands between single quotes and holds what stands there, two quotes read as
one; with an E right before the first quote, a backslash begins an escape as well. Two values with
nothing but space between them are one value, if a line ends in that space. A word is read in small
letters, a name between double quotes as it stands there.

Whatever else a server knows is refused: comments, dollar signs and braces, numbers that are no
plain integers, escapes by code, operators that a server would split, and values of other kinds,
which are marked by another letter before the quote.
-/

import ClusterFixture.Sql.Relation
import ClusterFixture.Text.Search

set_option autoImplicit false

namespace ClusterFixture.Sql

/-- A token. -/
inductive Token where
  /-- A word without quotes, in small letters. -/
  | word (s : String)
  /-- A name between double quotes. -/
  | name (s : String)
  /-- A value between single quotes, as it is meant. -/
  | value (s : String)
  | number (n : Nat)
  /-- An operator or a mark. -/
  | symbol (s : String)
  deriving DecidableEq, Repr

/-- What has been begun of a token. Characters stand in reverse. -/
inductive Begun where
  | nothing
  | word (chars : List Char)
  | number (n : Nat)
  | symbol (chars : List Char)
  /-- Inside a value, which has escapes or not. -/
  | value (escapes : Bool) (chars : List Char)
  /-- Behind a backslash inside a value. -/
  | backslash (chars : List Char)
  /-- Behind a quote that ends a value, unless another one follows. -/
  | valueQuote (escapes : Bool) (chars : List Char)
  /-- In the space behind a value, where a line has ended or not. -/
  | valueSpace (escapes broken : Bool) (chars : List Char)
  | name (chars : List Char)
  /-- Behind a quote that ends a name, unless another one follows. -/
  | nameQuote (chars : List Char)
  deriving DecidableEq, Repr

/-! ## Characters -/

/-- The marks that never join with other ones. -/
def brackets : List Char := ['(', ')', '[', ']', ',', ';']

/-- The characters with which an operator may end in a sign. -/
def signKeepers : List Char := ['~', '!', '@', '#', '^', '&', '|', '\x60', '?', '%']

/-- The characters of operators. -/
def operatorChars : List Char := ['+', '-', '*', '/', '<', '>', '='] ++ signKeepers

/-- Whether a character ends a line. -/
def endsLine (c : Char) : Bool := c = '\n' || c = '\r'

/-- Whether a character joins what has been begun of a symbol. -/
def joinsSymbol (chars : List Char) (c : Char) : Bool :=
  match chars with
  | [':'] => c = ':' || c = '='
  | ['.'] => c = '.'
  | d :: _ => operatorChars.contains d && operatorChars.contains c
  | [] => false

/-- Whether a letter alone marks what follows it as a value or a name of another kind. -/
def marksOther (chars : List Char) (c : Char) : Bool :=
  match chars with
  | [d] =>
    (c = '\'' && ['b', 'B', 'x', 'X', 'n', 'N'].contains d) || (c = '&' && ['u', 'U'].contains d)
  | _ => false

/-- The character of an escape by a letter, unless it is one by code. -/
def escapedLetter? (c : Char) : Option Char :=
  if ('0' ≤ c && c ≤ '7') || ['x', 'u', 'U'].contains c then none
  else if c = 'b' then some '\x08'
  else if c = 'f' then some '\x0c'
  else if c = 'n' then some '\n'
  else if c = 'r' then some '\r'
  else if c = 't' then some '\t'
  else if c = 'v' then some '\x0b'
  else some c

/-! ## Tokens -/

/-- The text of characters in reverse. -/
def unreversed (chars : List Char) : String := String.ofList chars.reverse

/-- A symbol, unless it holds the beginning of a comment or a sign that is a symbol of its own. -/
def symbol? (chars : List Char) : Option Token :=
  let s := chars.reverse
  if Text.occursIn ['-', '-'] s || Text.occursIn ['/', '*'] s then none
  else if 1 < s.length && chars.head?.any ['+', '-'].contains && !s.any signKeepers.contains then
    none
  else some (.symbol (unreversed chars))

/-- What a character begins, with the token that it is by itself. -/
def start (c : Char) : Option (List Token × Begun) :=
  if isSpace c then some ([], .nothing)
  else if startsWord c then some ([], .word [c])
  else if c.isDigit then some ([], .number (c.toNat - '0'.toNat))
  else if c = '\'' then some ([], .value false [])
  else if c = '"' then some ([], .name [])
  else if brackets.contains c then some ([.symbol (String.singleton c)], .nothing)
  else if c = ':' || c = '.' || operatorChars.contains c then some ([], .symbol [c])
  else none

/-- What a character begins behind a token. -/
def startBehind (t : Token) (c : Char) : Option (List Token × Begun) :=
  (start c).map fun (ts, b) => (t :: ts, b)

/-- The token that has been begun, where nothing follows. -/
def finish : Begun → Option (List Token)
  | .nothing => some []
  | .word chars => some [.word (unreversed (chars.map Char.toLower))]
  | .number n => some [.number n]
  | .symbol chars => (symbol? chars).map ([·])
  | .valueQuote _ chars => some [.value (unreversed chars)]
  | .valueSpace _ _ chars => some [.value (unreversed chars)]
  | .nameQuote chars => if chars.isEmpty then none else some [.name (unreversed chars)]
  | .value _ _ => none
  | .backslash _ => none
  | .name _ => none

/-- One character further: the tokens that are complete, and what has been begun then. -/
def step : Begun → Char → Option (List Token × Begun)
  | .nothing, c => start c
  | .word chars, c =>
    if continuesWord c then some ([], .word (c :: chars))
    else if c = '\'' && (chars = ['E'] || chars = ['e']) then some ([], .value true [])
    else if marksOther chars c then none
    else startBehind (.word (unreversed (chars.map Char.toLower))) c
  | .number n, c =>
    if c.isDigit then some ([], .number (10 * n + (c.toNat - '0'.toNat)))
    else if continuesWord c || c = '.' then none
    else startBehind (.number n) c
  | .symbol chars, c =>
    if joinsSymbol chars c then some ([], .symbol (c :: chars))
    else if chars = ['.'] && c.isDigit then none
    else (symbol? chars).bind fun t => startBehind t c
  | .value escapes chars, c =>
    if c = '\'' then some ([], .valueQuote escapes chars)
    else if escapes && c = '\\' then some ([], .backslash chars)
    else some ([], .value escapes (c :: chars))
  | .backslash chars, c => (escapedLetter? c).map fun d => ([], .value true (d :: chars))
  | .valueQuote escapes chars, c =>
    if c = '\'' then some ([], .value escapes (c :: chars))
    else if isSpace c then some ([], .valueSpace escapes (endsLine c) chars)
    else startBehind (.value (unreversed chars)) c
  | .valueSpace escapes broken chars, c =>
    if isSpace c then some ([], .valueSpace escapes (broken || endsLine c) chars)
    else if broken && c = '\'' then some ([], .value escapes chars)
    else startBehind (.value (unreversed chars)) c
  | .name chars, c =>
    if c = '"' then some ([], .nameQuote chars) else some ([], .name (c :: chars))
  | .nameQuote chars, c =>
    if c = '"' then some ([], .name (c :: chars))
    else if chars.isEmpty then none
    else startBehind (.name (unreversed chars)) c

/-! ## Statements -/

/-- The tokens that are complete behind a text, and what has been begun then. -/
def scan : Begun → List Char → Option (List Token × Begun)
  | b, [] => some ([], b)
  | b, c :: rest => do
    let (done, b) ← step b c
    let (ts, b) ← scan b rest
    return (done ++ ts, b)

/-- The tokens of a text that goes on with what has been begun. -/
def readFrom (b : Begun) (cs : List Char) : Option (List Token) := do
  let (ts, b) ← scan b cs
  return ts ++ (← finish b)

/-- The tokens of a statement. -/
def tokens? (statement : String) : Option (List Token) := readFrom .nothing statement.toList

end ClusterFixture.Sql
