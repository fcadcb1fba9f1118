/-
Reading and writing integers in decimal, and their fixed ranges.

A text is read digit by digit from the left. The first character that is no digit, or the first
step that leaves the range, decides the fault; so a bad character after too many digits is not
seen. A sign alone is a bad character.
-/

set_option autoImplicit false

namespace ClusterFixture.Number

/-- Why a text is no integer of a range. -/
inductive IntegerFault where
  | empty
  | invalidDigit
  | aboveRange
  | belowRange
  deriving DecidableEq, Repr

/-- The wording of a fault. -/
def IntegerFault.message : IntegerFault → String
  | .empty => "cannot parse integer from empty string"
  | .invalidDigit => "invalid digit found in string"
  | .aboveRange => "number too large to fit in target type"
  | .belowRange => "number too small to fit in target type"

/-! ## Powers -/

/-- A power of two. -/
def twoTo (n : Nat) : Nat := Nat.pow 2 n

/-- A power of ten. -/
def tenTo (n : Nat) : Nat := Nat.pow 10 n

/-! ## Ranges -/

/-- A range of integers, ends included. -/
structure IntRange where
  low : Int
  high : Int
  deriving DecidableEq, Repr

/-- The range of signed integers of so many bits. -/
def signedRange (bits : Nat) : IntRange :=
  ⟨-(twoTo (bits - 1) : Int), (twoTo (bits - 1) : Int) - 1⟩

/-- The range of unsigned integers of so many bits. -/
def unsignedRange (bits : Nat) : IntRange := ⟨0, (twoTo bits : Int) - 1⟩

/-- Whether an integer lies in a range. -/
def IntRange.holds (r : IntRange) (n : Int) : Bool := r.low ≤ n && n ≤ r.high

/-- The integer of a range closest to `n`. -/
def IntRange.clamp (r : IntRange) (n : Int) : Int := max r.low (min r.high n)

/-! ## Reading -/

/-- The value of an ASCII digit. -/
def digitValue? (c : Char) : Option Nat :=
  if c.isDigit then some (c.toNat - '0'.toNat) else none

/-- Appends the digits to `value`, upwards or downwards. Leaving the range by the tenfold is
noticed after the digit was seen to be one, leaving it by the digit right after. -/
def readDigits (r : IntRange) (down : Bool) (value : Int) : List Char → Except IntegerFault Int
  | [] => .ok value
  | c :: rest =>
    match digitValue? c with
    | none => .error .invalidDigit
    | some d =>
      let next := if down then value * 10 - d else value * 10 + d
      if next < r.low then .error .belowRange
      else if r.high < next then .error .aboveRange
      else readDigits r down next rest

/-- The integer of a range that a list of characters writes. A leading minus counts as a sign only
where the range has negative numbers. -/
def readIntegerChars (r : IntRange) : List Char → Except IntegerFault Int
  | [] => .error .empty
  | [c] => if c = '+' || c = '-' then .error .invalidDigit else readDigits r false 0 [c]
  | c :: rest =>
    if c = '+' then readDigits r false 0 rest
    else if c = '-' && r.low < 0 then readDigits r true 0 rest
    else readDigits r false 0 (c :: rest)

/-- The integer of a range that a text writes. -/
def readInteger (r : IntRange) (s : String) : Except IntegerFault Int :=
  readIntegerChars r s.toList

/-- What is read lies in the range, if the value to append to does. -/
theorem readDigits_mem (r : IntRange) (down : Bool) (value n : Int) (cs : List Char)
    (hv : r.holds value = true) (h : readDigits r down value cs = .ok n) :
    r.holds n = true := by
  fun_induction readDigits r down value cs with
  | case1 => cases h; exact hv
  | case2 => simp at h
  | case3 => simp at h
  | case4 => simp at h
  | case5 _ _ _ _ _ _ h1 h2 ih =>
    exact ih (by simp only [IntRange.holds, Bool.and_eq_true, decide_eq_true_eq]; omega) h

/-! ## Bases -/

/-- The value of a digit in a base up to sixteen. -/
def digitIn? (base : Nat) (c : Char) : Option Nat :=
  let n := c.toNat
  let value? :=
    if c.isDigit then some (n - 48)
    else if 'a' ≤ c && c ≤ 'f' then some (n - 87)
    else if 'A' ≤ c && c ≤ 'F' then some (n - 55)
    else none
  value?.filter (· < base)

/-- The number that digits write in a base; nothing where one of them is no digit of it. -/
def natIn? (base : Nat) (cs : List Char) : Option Nat :=
  cs.foldl (fun value? c => do return (← value?) * base + (← digitIn? base c)) (some 0)

/-- The digit of a value below sixteen, in lower case. -/
def hexDigit (n : Nat) : Char :=
  if n < 10 then Char.ofNat (48 + n) else Char.ofNat (87 + n)

/-- A number in hexadecimal, lower case, with at least `width` digits. -/
def hex (width n : Nat) : String :=
  let digits := (Nat.toDigits 16 n)
  String.ofList (List.replicate (width - digits.length) '0' ++ digits)

/-- An integer in decimal. -/
def decimal (n : Int) : String :=
  match n with
  | .ofNat k => k.repr
  | .negSucc k => "-" ++ (k + 1).repr

end ClusterFixture.Number
