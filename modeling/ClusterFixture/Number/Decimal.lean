/-
Decimal literals: an optional sign, digits with an optional point, and an optional power of ten.

At least one digit stands before or after the point, and at least one after the exponent mark. The
words for infinity and for what is no number are read in any letter case.
-/

import ClusterFixture.Number.Binary64

set_option autoImplicit false

namespace ClusterFixture.Number

/-- Why a text is no decimal literal. -/
inductive DecimalFault where
  | empty
  | invalid
  deriving DecidableEq, Repr

/-- The wording of a fault. -/
def DecimalFault.message : DecimalFault → String
  | .empty => "cannot parse float from empty string"
  | .invalid => "invalid float literal"

/-- The parts of a literal without its sign. -/
structure DecimalParts where
  whole : List Char
  fraction : List Char
  exponent : Int
  deriving DecidableEq, Repr

/-- The number that ASCII digits write. -/
def natOfDigits (cs : List Char) : Nat :=
  cs.foldl (fun value c => value * 10 + (c.toNat - '0'.toNat)) 0

/-- The digits at the start, and what follows them. -/
def spanDigits (cs : List Char) : List Char × List Char :=
  (cs.takeWhile Char.isDigit, cs.dropWhile Char.isDigit)

/-- A sign at the start, minus or not, and what follows it. -/
def takeSign : List Char → Bool × List Char
  | '-' :: rest => (true, rest)
  | '+' :: rest => (false, rest)
  | cs => (false, cs)

/-- The power of ten that ends a literal; an absent one is zero. -/
def exponentPart? : List Char → Option Int
  | [] => some 0
  | c :: rest =>
    if c = 'e' || c = 'E' then
      let (down, digits) := takeSign rest
      if digits.isEmpty || !digits.all Char.isDigit then none
      else some (if down then -(natOfDigits digits : Int) else natOfDigits digits)
    else none

/-- The parts of a literal without a sign. -/
def decimalParts? (cs : List Char) : Option DecimalParts := do
  let (whole, rest) := spanDigits cs
  let (fraction, rest) := match rest with
    | '.' :: more => spanDigits more
    | _ => ([], rest)
  if whole.isEmpty && fraction.isEmpty then none
  let exponent ← exponentPart? rest
  return ⟨whole, fraction, exponent⟩

/-- The number of the format nearest to what the parts write. -/
def DecimalParts.value (neg : Bool) (p : DecimalParts) : Binary64 :=
  .ofDecimal neg (natOfDigits (p.whole ++ p.fraction)) (p.exponent - p.fraction.length)

/-- The letters of a list in ASCII lower case. -/
def lowerAscii (cs : List Char) : List Char := cs.map Char.toLower

/-- The number of the format nearest to what the characters write. -/
def readDecimalChars (cs : List Char) : Except DecimalFault Binary64 :=
  if cs.isEmpty then .error .empty
  else
    let (neg, body) := takeSign cs
    match decimalParts? body with
    | some p => .ok (p.value neg)
    | none =>
      let word := String.ofList (lowerAscii body)
      if word = "inf" || word = "infinity" then .ok (.infinite neg)
      else if word = "nan" then .ok .nan
      else .error .invalid

/-- The number of the format nearest to what a text writes. -/
def readDecimal (s : String) : Except DecimalFault Binary64 := readDecimalChars s.toList

end ClusterFixture.Number
