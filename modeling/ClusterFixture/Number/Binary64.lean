/-
Numbers of the format binary64, as exact values.

A finite number is a sign, a significand and a power of two. Every operation computes the exact
rational result first and then rounds once, to the nearest number of the format, ties to the even
significand.
-/

import ClusterFixture.Number.Integer

set_option autoImplicit false

namespace ClusterFixture.Number

/-- A number of the format; `finite neg m e` is m · 2^e, negated where `neg` holds. -/
inductive Binary64 where
  | finite (neg : Bool) (significand : Nat) (exponent : Int)
  | infinite (neg : Bool)
  | nan
  deriving DecidableEq, Repr, Inhabited

namespace Binary64

/-- Positive zero. -/
def zero : Binary64 := .finite false 0 0

/-! ## Rounding -/

/-- The quotient of two numbers rounded to the nearest integer, ties to the even one. -/
def divEven (num den : Nat) : Nat :=
  let q := num / den
  let twice := 2 * (num % den)
  if twice < den then q
  else if den < twice then q + 1
  else if q % 2 = 0 then q else q + 1

/-- The least exponent of the format and the greatest. -/
def minExponent : Int := -1074

@[inherit_doc minExponent] def maxExponent : Int := 971

/-- Numerator and denominator of num / den · 2^(-e). -/
def scaled (num den : Nat) (e : Int) : Nat × Nat :=
  if 0 ≤ e then (num, den * twoTo e.toNat) else (num * twoTo (-e).toNat, den)

/-- The exponent at which the quotient of two positive numbers has a significand of 53 bits, or
the least exponent of the format. -/
def exponentOf (num den : Nat) : Int :=
  let guess : Int := (Nat.log2 num : Int) - (Nat.log2 den : Int) - 52
  let (n, d) := scaled num den guess
  let e := if n < d * twoTo 52 then guess - 1 else guess
  max e minExponent

/-- The number of the format nearest to num / den. -/
def ofRatio (neg : Bool) (num den : Nat) : Binary64 :=
  if num = 0 || den = 0 then .finite neg 0 0
  else
    let e := exponentOf num den
    let (n, d) := scaled num den e
    let m := divEven n d
    let (m, e) := if m = twoTo 53 then (twoTo 52, e + 1) else (m, e)
    if maxExponent < e then .infinite neg
    else if m = 0 then .finite neg 0 0
    else .finite neg m e

/-- The number of the format nearest to digits · 10^e. Far outside the format the digits need not
be looked at. -/
def ofDecimal (neg : Bool) (digits : Nat) (e : Int) : Binary64 :=
  if digits = 0 then .finite neg 0 0
  else
    let places : Int := (Nat.toDigits 10 digits).length + e
    if 310 < places then .infinite neg
    else if places < -330 then .finite neg 0 0
    else if 0 ≤ e then ofRatio neg (digits * tenTo e.toNat) 1
    else ofRatio neg digits (tenTo (-e).toNat)

/-! ## Arithmetic -/

/-- The number with the other sign. -/
def neg : Binary64 → Binary64
  | .finite s m e => .finite (!s) m e
  | .infinite s => .infinite (!s)
  | .nan => .nan

/-- Numerator and denominator of m · 2^e. -/
def ratio (m : Nat) (e : Int) : Nat × Nat :=
  if 0 ≤ e then (m * twoTo e.toNat, 1) else (m, twoTo (-e).toNat)

/-- The product, rounded once. -/
def mul : Binary64 → Binary64 → Binary64
  | .finite s m e, .finite t n f =>
    let (num, den) := ratio (m * n) (e + f)
    ofRatio (s != t) num den
  | .infinite s, .finite t n _ => if n = 0 then .nan else .infinite (s != t)
  | .finite s m _, .infinite t => if m = 0 then .nan else .infinite (s != t)
  | .infinite s, .infinite t => .infinite (s != t)
  | _, _ => .nan

/-- The quotient, rounded once. -/
def div : Binary64 → Binary64 → Binary64
  | .finite s m e, .finite t n f =>
    if n = 0 then (if m = 0 then .nan else .infinite (s != t))
    else
      let (num, den) := ratio m (e - f)
      ofRatio (s != t) num (den * n)
  | .infinite s, .finite t _ _ => .infinite (s != t)
  | .finite s _ _, .infinite t => .finite (s != t) 0 0
  | _, _ => .nan

/-- The integer part of |m · 2^e|. -/
def integerPart (m : Nat) (e : Int) : Nat :=
  if 0 ≤ e then m * twoTo e.toNat else m / twoTo (-e).toNat

/-- Whether m · 2^e is an integer. -/
def isInteger (m : Nat) (e : Int) : Bool :=
  0 ≤ e || m % twoTo (-e).toNat == 0

/-- The exact integer a finite number is equal to, if it is one. -/
def toInt? : Binary64 → Option Int
  | .finite s m e =>
    if isInteger m e then some (if s then -(integerPart m e : Int) else integerPart m e) else none
  | _ => none

/-- The order of two numbers of which none is a NaN: the sign of the difference. -/
def lt : Binary64 → Binary64 → Bool
  | .nan, _ => false
  | _, .nan => false
  | .infinite s, .infinite t => s && !t
  | .infinite s, .finite _ _ _ => s
  | .finite _ _ _, .infinite t => !t
  | .finite s m e, .finite t n f =>
    let low := min e f
    let a : Int := m * twoTo (e - low).toNat
    let b : Int := n * twoTo (f - low).toNat
    (if s then -a else a) < (if t then -b else b)

/-- Equality of values: both zeros are equal, and a NaN differs from everything. -/
def same (a b : Binary64) : Bool :=
  match a, b with
  | .nan, _ => false
  | _, .nan => false
  | a, b => !lt a b && !lt b a

/-! ## Bits -/

/-- The 64 bits of a number, as a number below 2^64; nothing for a NaN. -/
def bits? : Binary64 → Option Nat
  | .nan => none
  | .infinite s => some ((if s then twoTo 63 else 0) + 2047 * twoTo 52)
  | .finite s m e =>
    let sign := if s then twoTo 63 else 0
    if m < twoTo 52 then some (sign + m)
    else some (sign + (e + 1075).toNat * twoTo 52 + (m - twoTo 52))

end Binary64

end ClusterFixture.Number
