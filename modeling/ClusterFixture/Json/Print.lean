/-
JSON values as text, without blanks.

Quotes, backslashes and control characters of a text are escaped, and nothing else. A number that is
no integer has a point or an exponent: it is written without an exponent while its first digit
stands between the fifth place after the point and the sixteenth before it.
-/

import ClusterFixture.Json.Basic
import ClusterFixture.Number.Shortest

set_option autoImplicit false

namespace ClusterFixture.Json

open ClusterFixture.Number

/-! ## Texts -/

/-- One character inside quotes. -/
def escapedChar (c : Char) : List Char :=
  if c = '"' then ['\\', '"']
  else if c = '\\' then ['\\', '\\']
  else if c = '\x08' then ['\\', 'b']
  else if c = '\t' then ['\\', 't']
  else if c = '\n' then ['\\', 'n']
  else if c = '\x0c' then ['\\', 'f']
  else if c = '\r' then ['\\', 'r']
  else if c.toNat < 0x20 then
    ['\\', 'u', '0', '0', hexDigit (c.toNat / 16), hexDigit (c.toNat % 16)]
  else [c]

/-- A text inside quotes. -/
def stringChars (cs : List Char) : List Char := '"' :: cs.flatMap escapedChar ++ ['"']

/-! ## Numbers -/

/-- A number below 1000 with at least two digits. -/
def exponentDigits (n : Nat) : List Char :=
  if n < 10 then ['0', hexDigit n] else Nat.toDigits 10 n

/-- The digits of a number whose last one stands for 10^p. -/
def decimalChars (k : Nat) (p : Int) : List Char :=
  let digits := Nat.toDigits 10 k
  let first : Int := digits.length + p - 1
  if -5 ≤ first && first ≤ 15 then
    (Binary64.positional k p).toList ++ (if 0 ≤ p then ['.', '0'] else [])
  else
    let mark := if first < 0 then ['e', '-'] else ['e', '+']
    let body := match digits with
      | [] => []
      | [d] => [d]
      | d :: rest => d :: '.' :: rest
    body ++ mark ++ exponentDigits first.natAbs

/-- A number that is no integer; one that is not finite has no JSON form but null. -/
def floatChars : Binary64 → List Char
  | .finite s m e =>
    let body := if m = 0 then ['0', '.', '0'] else
      let (k, p) := Binary64.shortest m e
      decimalChars k p
    if s then '-' :: body else body
  | _ => "null".toList

/-! ## Values -/

mutual

/-- The text of a value. -/
def chars : Json → List Char
  | .null => "null".toList
  | .bool b => if b then "true".toList else "false".toList
  | .integer n => (decimal n).toList
  | .float x => floatChars x
  | .string s => stringChars s.toList
  | .array items => '[' :: itemChars items ++ [']']
  | .object members => '\x7b' :: memberChars members ++ ['\x7d']

/-- The items of an array with commas between them. -/
def itemChars : List Json → List Char
  | [] => []
  | [item] => item.chars
  | item :: rest => item.chars ++ ',' :: itemChars rest

/-- The members of an object with commas between them. -/
def memberChars : List (String × Json) → List Char
  | [] => []
  | [(key, value)] => stringChars key.toList ++ ':' :: value.chars
  | (key, value) :: rest =>
    stringChars key.toList ++ ':' :: value.chars ++ ',' :: memberChars rest

end

/-- The text of a value. -/
def render (j : Json) : String := String.ofList j.chars

end ClusterFixture.Json
