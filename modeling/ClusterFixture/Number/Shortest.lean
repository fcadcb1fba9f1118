/-
The fewest decimal digits that name a binary64 number.

All reals between the midpoints to a number's two neighbours round to it, the midpoints included
where its significand is even. For one, two, … seventeen digits the two points of that decimal grid
around the number are tried; the first grid with a point in the interval wins, and of two such
points the nearer.
-/

import ClusterFixture.Number.Decimal

set_option autoImplicit false

namespace ClusterFixture.Number.Binary64

/-- A positive rational interval in quarter units: the number is `4 * mid / den`. -/
structure Rounding where
  /-- The denominator shared by all three. -/
  den : Nat
  low : Nat
  mid : Nat
  high : Nat
  /-- Whether the ends belong to the interval. -/
  closed : Bool
  deriving Repr

/-- The interval of reals that round to m · 2^e. Below a power of two the neighbour is only half
as far away. -/
def rounding (m : Nat) (e : Int) : Rounding :=
  let half := m = twoTo 52 && minExponent < e
  let low := 4 * m - (if half then 1 else 2)
  let up := if 0 ≤ e then twoTo e.toNat else 1
  let down := if 0 ≤ e then 1 else twoTo (-e).toNat
  ⟨4 * down, low * up, 4 * m * up, (4 * m + 2) * up, m % 2 = 0⟩

/-- Whether k · 10^p lies in the interval. -/
def Rounding.holds (r : Rounding) (k : Nat) (p : Int) : Bool :=
  let v := k * r.den * (if 0 ≤ p then tenTo p.toNat else 1)
  let scale := if 0 ≤ p then 1 else tenTo (-p).toNat
  if r.closed then r.low * scale ≤ v && v ≤ r.high * scale
  else r.low * scale < v && v < r.high * scale

/-- The point of the grid of multiples of 10^p that names the number, if one does. -/
def Rounding.gridPoint? (r : Rounding) (p : Int) : Option Nat :=
  let num := r.mid * (if 0 ≤ p then 1 else tenTo (-p).toNat)
  let den := r.den * (if 0 ≤ p then tenTo p.toNat else 1)
  let below := num / den
  let twice := 2 * (num % den)
  let nearer := if twice < den then below
    else if den < twice then below + 1
    else if below % 2 = 0 then below else below + 1
  let other := if nearer = below then below + 1 else below
  if 0 < nearer && r.holds nearer p then some nearer
  else if 0 < other && r.holds other p then some other
  else none

/-- The decimal exponent of the first digit of mid / den. -/
def Rounding.magnitude (r : Rounding) : Int :=
  if r.den ≤ r.mid then ((Nat.toDigits 10 (r.mid / r.den)).length : Int) - 1
  else
    let q := r.den / r.mid
    let k := (Nat.toDigits 10 q).length
    if tenTo (k - 1) * r.mid = r.den then -((k : Int) - 1) else -(k : Int)

/-- Digits and power of ten for the finest of the next `fuel` grids, from 10^p downwards, that names
the number. -/
def Rounding.search (r : Rounding) (p : Int) : Nat → Nat × Int
  | 0 => (r.mid / r.den, 0)
  | fuel + 1 =>
    match r.gridPoint? p with
    | some k => (k, p)
    | none => r.search (p - 1) fuel

/-- Drops the zeros at the end of the digits. -/
def dropZeros (k : Nat) (p : Int) : Nat → Nat × Int
  | 0 => (k, p)
  | fuel + 1 => if k % 10 = 0 && 0 < k then dropZeros (k / 10) (p + 1) fuel else (k, p)

/-- The fewest digits that name m · 2^e, and the power of ten of the last one. -/
def shortest (m : Nat) (e : Int) : Nat × Int :=
  let r := rounding m e
  let (k, p) := r.search r.magnitude 18
  dropZeros k p 20

/-! ## Positional text -/

/-- Digits and a power of ten of the last one, written without an exponent. -/
def positional (k : Nat) (p : Int) : String :=
  let digits := Nat.toDigits 10 k
  if 0 ≤ p then String.ofList (digits ++ List.replicate p.toNat '0')
  else
    let places := (-p).toNat
    if places < digits.length then
      String.ofList (digits.take (digits.length - places)) ++ "."
        ++ String.ofList (digits.drop (digits.length - places))
    else "0." ++ String.ofList (List.replicate (places - digits.length) '0' ++ digits)

/-- A number in positional notation with the fewest digits that name it. -/
def display : Binary64 → String
  | .nan => "NaN"
  | .infinite s => if s then "-inf" else "inf"
  | .finite s m e =>
    let body := if m = 0 then "0" else
      let (k, p) := shortest m e
      positional k p
    if s then "-" ++ body else body

end ClusterFixture.Number.Binary64
