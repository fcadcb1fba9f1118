/-
Decimal numerals, and what is read from them.

A numeral has a sign or none, digits, a point with digits behind it, and a power of ten; its value
is an exact rational number. Every numeral can be read as a number of the format binary64, the
nearest one to its value. As an integer it can be read only where it has neither point nor power,
and where the value lies in the range; then the value itself is read.
-/

import ClusterFixture.Proofs.Counting
import ClusterFixture.Proofs.Rounding

set_option autoImplicit false

namespace ClusterFixture.Number

open Binary64 (RoundsTo signed)

/-! ## Numerals -/

/-- Decimal digits. -/
structure Digits where
  chars : List Char
  areDigits : ∀ c ∈ chars, c.isDigit = true

/-- The digits that a text consists of. -/
def Digits.ofText (text : String) (h : text.toList.all Char.isDigit = true) : Digits where
  chars := text.toList
  areDigits := List.all_eq_true.mp h

/-- The digits of a natural number. -/
def Digits.ofNat (n : Nat) : Digits where
  chars := Nat.toDigits 10 n
  areDigits _ hc := Nat.isDigit_of_mem_toDigits (by decide) (by decide) hc

theorem Digits.ofNat_ne_nil (n : Nat) : (Digits.ofNat n).chars ≠ [] := Nat.toDigits_ne_nil

/-- The number that digits write. -/
def Digits.value (d : Digits) : Nat := Nat.ofDigitChars 10 d.chars 0

theorem Digits.value_ofNat (n : Nat) : (Digits.ofNat n).value = n := Nat.ofDigitChars_ten_toDigits

/-- The signs of a number. -/
inductive Sign where
  | plus
  | minus
  deriving DecidableEq, Repr

namespace Sign

/-- The characters of a sign that may be missing. -/
def chars : Option Sign → List Char
  | none => []
  | some plus => ['+']
  | some minus => ['-']

/-- Whether there is a minus. -/
def isMinus (s : Option Sign) : Bool := s == some minus

end Sign

/-- An integer with a sign. -/
def signedInt (down : Bool) (n : Nat) : Int := if down then -(n : Int) else n

/-- A power of ten, as it ends a numeral. -/
structure Power where
  mark : Char
  isMark : mark = 'e' ∨ mark = 'E'
  sign : Option Sign
  digits : Digits
  nonempty : digits.chars ≠ []

namespace Power

def chars (p : Power) : List Char := p.mark :: (Sign.chars p.sign ++ p.digits.chars)

/-- The exponent of the power. -/
def exponent (p : Power) : Int := signedInt (Sign.isMinus p.sign) p.digits.value

end Power

/-- A decimal numeral. At least one digit stands before or behind the point. -/
structure Numeral where
  sign : Option Sign
  whole : Digits
  fraction : Option Digits
  power : Option Power
  nonempty : whole.chars ≠ [] ∨ ∃ f, fraction = some f ∧ f.chars ≠ []

namespace Numeral

/-- The point and what stands behind it. -/
def pointChars (l : Numeral) : List Char :=
  match l.fraction with
  | none => []
  | some f => '.' :: f.chars

/-- The characters of the power of ten. -/
def powerChars (l : Numeral) : List Char :=
  match l.power with
  | none => []
  | some p => p.chars

def chars (l : Numeral) : List Char :=
  Sign.chars l.sign ++ (l.whole.chars ++ (l.pointChars ++ l.powerChars))

def text (l : Numeral) : String := String.ofList l.chars

/-- The digits behind the point. -/
def places (l : Numeral) : List Char :=
  match l.fraction with
  | none => []
  | some f => f.chars

/-- The exponent of the power of ten; without one it is zero. -/
def exponent (l : Numeral) : Int :=
  match l.power with
  | none => 0
  | some p => p.exponent

/-- The exact value. -/
def value (l : Numeral) : ℚ :=
  signed (Sign.isMinus l.sign)
    ((l.whole.value + (Nat.ofDigitChars 10 l.places 0 : ℚ) / 10 ^ l.places.length) *
      10 ^ l.exponent)

/-- A numeral without point and power. -/
def IsPlain (l : Numeral) : Prop := l.fraction = none ∧ l.power = none

/-- The number of the format that is read. -/
def nearest (l : Numeral) : Binary64 :=
  DecimalParts.value (Sign.isMinus l.sign) ⟨l.whole.chars, l.places, l.exponent⟩

end Numeral

/-! ## Digits -/

theorem natOfDigits_eq (cs : List Char) : natOfDigits cs = Nat.ofDigitChars 10 cs 0 := by
  have hfold : ∀ (cs : List Char) (value : Nat),
      cs.foldl (fun value c => value * 10 + (c.toNat - '0'.toNat)) value =
        Nat.ofDigitChars 10 cs value := by
    intro cs
    induction cs with
    | nil => simp
    | cons c rest ih =>
      intro value
      rw [List.foldl_cons, Nat.ofDigitChars_cons, ih, Nat.mul_comm]
  exact hfold cs 0

/-- Every further digit counts for a power of ten less. -/
theorem ofDigitChars_eq (cs : List Char) (value : Nat) :
    Nat.ofDigitChars 10 cs value = value * 10 ^ cs.length + Nat.ofDigitChars 10 cs 0 := by
  induction cs generalizing value with
  | nil => simp
  | cons c rest ih =>
    rw [Nat.ofDigitChars_cons, Nat.ofDigitChars_cons, ih, ih (10 * 0 + _), List.length_cons]
    ring

theorem isDigit_ne_sign {c : Char} (h : c.isDigit = true) : c ≠ '+' ∧ c ≠ '-' := by
  constructor
  · rintro rfl
    revert h
    decide
  · rintro rfl
    revert h
    decide

/-! ## Reading a numeral as a number of the format -/

theorem takeSign_append (s : Option Sign) {body : List Char}
    (hbody : ∀ c, body.head? = some c → c ≠ '+' ∧ c ≠ '-') :
    takeSign (Sign.chars s ++ body) = (Sign.isMinus s, body) := by
  rcases s with _ | _ | _
  · rcases body with _ | ⟨c, rest⟩
    · rfl
    · obtain ⟨hplus, hminus⟩ := hbody c rfl
      rw [Sign.chars, List.nil_append]
      unfold takeSign
      split
      · next heq => exact absurd (List.cons.inj heq).1 hminus
      · next heq => exact absurd (List.cons.inj heq).1 hplus
      · rfl
  · rfl
  · rfl

theorem spanDigits_append (d : Digits) (rest : List Char)
    (hrest : ∀ c, rest.head? = some c → c.isDigit = false) :
    spanDigits (d.chars ++ rest) = (d.chars, rest) := by
  rw [spanDigits, List.takeWhile_append_of_pos d.areDigits,
    List.dropWhile_append_of_pos d.areDigits]
  rcases rest with _ | ⟨c, more⟩
  · simp
  · have hc := hrest c rfl
    rw [List.takeWhile_cons, List.dropWhile_cons, hc]
    simp

theorem exponentPart?_chars (p : Power) : exponentPart? p.chars = some p.exponent := by
  have hmark : (p.mark = 'e' || p.mark = 'E') = true := by simpa using p.isMark
  have hsign : takeSign (Sign.chars p.sign ++ p.digits.chars) =
      (Sign.isMinus p.sign, p.digits.chars) :=
    takeSign_append p.sign fun c hc =>
      isDigit_ne_sign (p.digits.areDigits c (List.mem_of_mem_head? hc))
  have hsome : (p.digits.chars.isEmpty || !p.digits.chars.all Char.isDigit) = false := by
    rw [List.all_eq_true.mpr p.digits.areDigits, Bool.not_true, Bool.or_false,
      List.isEmpty_eq_false_iff]
    exact p.nonempty
  rw [Power.chars, exponentPart?, if_pos hmark, hsign]
  simp only [hsome, natOfDigits_eq]
  rfl

namespace Numeral

variable (l : Numeral)

theorem exponentPart?_powerChars : exponentPart? l.powerChars = some l.exponent := by
  rw [powerChars, exponent]
  rcases l.power with _ | p
  · rfl
  · exact exponentPart?_chars p

/-- A power starts with a letter. -/
theorem head?_powerChars {c : Char} (hc : l.powerChars.head? = some c) : c = 'e' ∨ c = 'E' := by
  rw [powerChars] at hc
  rcases hpower : l.power with _ | p
  · rw [hpower] at hc
    cases hc
  · rw [hpower] at hc
    rw [← Option.some.inj hc]
    exact p.isMark

/-- What follows the digits before the point starts with the point, or with the letter of the
power. -/
theorem head?_behind {c : Char} (hc : (l.pointChars ++ l.powerChars).head? = some c) :
    c = '.' ∨ c = 'e' ∨ c = 'E' := by
  rw [pointChars] at hc
  rcases hfraction : l.fraction with _ | f
  · rw [hfraction] at hc
    exact .inr (l.head?_powerChars hc)
  · rw [hfraction] at hc
    exact .inl (Option.some.inj hc).symm

theorem not_isDigit_of_letter {c : Char} (hc : c = '.' ∨ c = 'e' ∨ c = 'E') :
    c.isDigit = false := by
  rcases hc with rfl | rfl | rfl
  · decide
  · decide
  · decide

/-- Without its sign a numeral does not start with one. -/
theorem head?_body {c : Char}
    (hc : (l.whole.chars ++ (l.pointChars ++ l.powerChars)).head? = some c) :
    c ≠ '+' ∧ c ≠ '-' := by
  rcases hwhole : l.whole.chars with _ | ⟨d, rest⟩
  · rw [hwhole] at hc
    rcases l.head?_behind hc with rfl | rfl | rfl
    · decide
    · decide
    · decide
  · rw [hwhole] at hc
    rw [← Option.some.inj hc]
    exact isDigit_ne_sign (l.whole.areDigits d (by rw [hwhole]; simp))

theorem decimalParts?_body :
    decimalParts? (l.whole.chars ++ (l.pointChars ++ l.powerChars)) =
      some ⟨l.whole.chars, l.places, l.exponent⟩ := by
  have hwhole := spanDigits_append l.whole (l.pointChars ++ l.powerChars)
    fun c hc => not_isDigit_of_letter (l.head?_behind hc)
  have hempty : (l.whole.chars.isEmpty && l.places.isEmpty) = false := by
    rw [Bool.and_eq_false_iff, List.isEmpty_eq_false_iff, List.isEmpty_eq_false_iff, places]
    refine l.nonempty.imp_right ?_
    rintro ⟨f, hf, hne⟩
    rw [hf]
    exact hne
  have hpower := l.exponentPart?_powerChars
  rw [decimalParts?, hwhole]
  rcases hfraction : l.fraction with _ | f
  · have hplaces : l.places = [] := by rw [places, hfraction]
    have hpoint : l.pointChars = [] := by rw [pointChars, hfraction]
    rw [hplaces] at hempty ⊢
    rw [hpoint, List.nil_append]
    let read := fun exponent : Int => some (⟨l.whole.chars, [], exponent⟩ : DecimalParts)
    -- The power does not start with a point.
    rcases hchars : l.powerChars with _ | ⟨c, rest⟩
    · rw [hchars] at hpower
      simp only [hempty, hpower]
      rfl
    · have hletter := l.head?_powerChars (by rw [hchars]; rfl : _ = some c)
      rw [hchars] at hpower
      rcases hletter with rfl | rfl
      · exact (if_neg (Bool.eq_false_iff.mp hempty)).trans (congrArg (Option.bind · read) hpower)
      · exact (if_neg (Bool.eq_false_iff.mp hempty)).trans (congrArg (Option.bind · read) hpower)
  · have hplaces : l.places = f.chars := by rw [places, hfraction]
    have hpoint : l.pointChars = '.' :: f.chars := by rw [pointChars, hfraction]
    have hspan := spanDigits_append f l.powerChars fun c hc =>
      not_isDigit_of_letter (.inr (l.head?_powerChars hc))
    rw [hplaces] at hempty ⊢
    rw [hpoint, List.cons_append]
    simp only [hspan, hempty, hpower]
    rfl

theorem chars_ne_nil : l.chars ≠ [] := by
  intro h
  rw [chars, List.append_eq_nil_iff, List.append_eq_nil_iff, List.append_eq_nil_iff] at h
  rcases l.nonempty with hwhole | ⟨f, hf, -⟩
  · exact hwhole h.2.1
  · have hpoint := h.2.2.1
    rw [pointChars, hf] at hpoint
    cases hpoint

/-- Every numeral is read. -/
theorem readDecimal_text : readDecimal l.text = .ok l.nearest := by
  have hsign := takeSign_append l.sign fun c hc => l.head?_body hc
  have hne : l.chars.isEmpty = false := List.isEmpty_eq_false_iff.mpr l.chars_ne_nil
  rw [readDecimal, text, String.toList_ofList, readDecimalChars, hne, chars, hsign]
  simp only [l.decimalParts?_body]
  rfl

/-- What is read is the number of the format that is nearest to the value. -/
theorem roundsTo_nearest : RoundsTo l.value l.nearest := by
  have hvalue : l.value = signed (Sign.isMinus l.sign)
      ((natOfDigits (l.whole.chars ++ l.places) : Nat) *
        10 ^ (l.exponent - l.places.length)) := by
    have hten : (10 : ℚ) ≠ 0 := by norm_num
    have hdigits : natOfDigits (l.whole.chars ++ l.places) =
        l.whole.value * 10 ^ l.places.length + Nat.ofDigitChars 10 l.places 0 := by
      rw [natOfDigits_eq, Nat.ofDigitChars_append, ofDigitChars_eq, Digits.value]
    rw [value, hdigits, zpow_sub₀ hten, zpow_natCast]
    congr 1
    push_cast
    field_simp
  rw [hvalue]
  exact Binary64.roundsTo_ofDecimal _ _ _

end Numeral

/-! ## Reading a numeral as an integer -/

theorem signedInt_eq_cast (down : Bool) (n : Nat) :
    ((signedInt down n : Int) : ℚ) = signed down n := by
  cases down
  · rfl
  · exact Int.cast_neg _

/-- One more digit goes on in the direction of the sign. -/
theorem signedInt_next (down : Bool) (n d : Nat) :
    (if down = true then signedInt down n * 10 - d else signedInt down n * 10 + d) =
      signedInt down (10 * n + d) := by
  cases down
  · simp only [signedInt, Bool.false_eq_true, if_false]
    push_cast
    ring
  · simp only [signedInt, if_true]
    push_cast
    ring

/-- A range around zero that holds a number holds all numbers between zero and it. -/
theorem holds_signedInt_of_le {r : IntRange} (hlow : r.low ≤ 0) (hhigh : 0 ≤ r.high) (down : Bool)
    {m n : Nat} (hle : m ≤ n) (hn : r.holds (signedInt down n) = true) :
    r.holds (signedInt down m) = true := by
  rw [IntRange.holds_iff] at hn ⊢
  cases down
  · simp only [signedInt, Bool.false_eq_true, if_false] at hn ⊢
    omega
  · simp only [signedInt, if_true] at hn ⊢
    omega

/-- Digits are read to the end exactly when the number that they write with those before lies in the
range: on the way numbers only get further away from zero. -/
theorem readDigits_eq_ok_iff {r : IntRange} (hlow : r.low ≤ 0) (hhigh : 0 ≤ r.high) (down : Bool)
    {cs : List Char} (hdigits : ∀ c ∈ cs, c.isDigit = true) {value : Nat}
    (hvalue : r.holds (signedInt down value) = true) (n : Int) :
    readDigits r down (signedInt down value) cs = .ok n ↔
      n = signedInt down (Nat.ofDigitChars 10 cs value) ∧ r.holds n = true := by
  induction cs generalizing value with
  | nil =>
    rw [readDigits, Nat.ofDigitChars_nil, Except.ok.injEq]
    constructor
    · rintro rfl
      exact ⟨rfl, hvalue⟩
    · rintro ⟨rfl, -⟩
      rfl
  | cons c rest ih =>
    have hc : c.isDigit = true := hdigits c (by simp)
    have hrest : ∀ c ∈ rest, c.isDigit = true := fun d hd => hdigits d (by simp [hd])
    have hle := le_ofDigitChars rest (10 * value + (c.toNat - '0'.toNat))
    rw [readDigits, digitValue?, if_pos hc, Nat.ofDigitChars_cons]
    simp only [signedInt_next]
    generalize 10 * value + (c.toNat - '0'.toNat) = next at hle ⊢
    -- What has left the range here does not come back to it.
    have hout : r.holds (signedInt down next) ≠ true →
        ¬(n = signedInt down (Nat.ofDigitChars 10 rest next) ∧ r.holds n = true) := by
      rintro hnext ⟨rfl, hholds⟩
      exact hnext (holds_signedInt_of_le hlow hhigh down hle hholds)
    rw [ne_eq, IntRange.holds_iff] at hout
    split
    · next hbelow => exact iff_of_false (by simp) (hout (by omega))
    split
    · next habove => exact iff_of_false (by simp) (hout (by omega))
    · next hbelow habove =>
      exact ih hrest ((IntRange.holds_iff _ _).mpr ⟨by omega, by omega⟩)

/-- A sign and digits behind it are read as such. -/
theorem readIntegerChars_signed {r : IntRange} (s : Option Sign)
    (hlow : s = some .minus → r.low < 0) {d : Digits} (hne : d.chars ≠ []) :
    readIntegerChars r (Sign.chars s ++ d.chars) = readDigits r (Sign.isMinus s) 0 d.chars := by
  rcases s with _ | _ | _
  · exact readIntegerChars_of_isDigit r d.chars hne d.areDigits
  · rcases hchars : d.chars with _ | ⟨c, rest⟩
    · exact absurd hchars hne
    · rfl
  · rcases hchars : d.chars with _ | ⟨c, rest⟩
    · exact absurd hchars hne
    · rw [Sign.chars, List.singleton_append, readIntegerChars, if_neg (by decide),
        if_pos (by simp [hlow rfl])]
      · rfl
      · simp

/-- What is read as an integer has only digits and a sign. -/
theorem isDigit_of_readIntegerChars {r : IntRange} {cs : List Char} {n : Int}
    (h : readIntegerChars r cs = .ok n) : ∀ c ∈ cs, c.isDigit = true ∨ c = '+' ∨ c = '-' := by
  rcases cs with _ | ⟨c, _ | ⟨d, rest⟩⟩
  · simp
  · rw [readIntegerChars] at h
    split at h
    · cases h
    · intro e he
      exact .inl (isDigit_of_readDigits h e he)
  · rw [readIntegerChars] at h
    · split at h
      · next hplus =>
        intro e he
        rcases List.mem_cons.mp he with rfl | he
        · exact .inr (.inl hplus)
        · exact .inl (isDigit_of_readDigits h e he)
      split at h
      · next hminus =>
        intro e he
        rcases List.mem_cons.mp he with rfl | he
        · exact .inr (.inr (by simp_all))
        · exact .inl (isDigit_of_readDigits h e he)
      · intro e he
        exact .inl (isDigit_of_readDigits h e he)
    · simp

namespace Numeral

variable (l : Numeral)

/-- Without point and power the value is the integer that the digits write. -/
theorem value_of_isPlain (h : l.IsPlain) :
    l.value = signedInt (Sign.isMinus l.sign) l.whole.value := by
  have hplaces : l.places = [] := by rw [places, h.1]
  have hexponent : l.exponent = 0 := by rw [exponent, h.2]
  rw [value, hplaces, hexponent, signedInt_eq_cast]
  congr 1
  simp

/-- As an integer a numeral is read exactly when it has neither point nor power, and its value lies
in the range; the value itself is read. -/
theorem readInteger_text_iff (n : Int) :
    readInteger (signedRange 64) l.text = .ok n ↔
      l.IsPlain ∧ l.value = n ∧ (signedRange 64).holds n = true := by
  rw [readInteger, text, String.toList_ofList]
  by_cases hplain : l.IsPlain
  · have hchars : l.chars = Sign.chars l.sign ++ l.whole.chars := by
      rw [chars, pointChars, powerChars, hplain.1, hplain.2, List.append_nil, List.append_nil]
    have hne : l.whole.chars ≠ [] := by
      refine l.nonempty.resolve_right ?_
      rintro ⟨f, hf, -⟩
      rw [hplain.1] at hf
      cases hf
    have hzero : (0 : Int) = signedInt (Sign.isMinus l.sign) 0 := by
      cases Sign.isMinus l.sign <;> rfl
    rw [hchars, readIntegerChars_signed l.sign (fun _ => by decide) hne, hzero,
      readDigits_eq_ok_iff (by decide) (by decide) _ l.whole.areDigits
        (by rw [← hzero]; decide) n, and_iff_right hplain, l.value_of_isPlain hplain, Int.cast_inj,
      ← Digits.value, eq_comm]
  · refine iff_of_false (fun h => hplain ?_) fun h => hplain h.1
    -- Neither a point nor the letter of a power could have been read.
    have hall := isDigit_of_readIntegerChars h
    have hletter : ∀ c ∈ l.chars, ¬(c = '.' ∨ c = 'e' ∨ c = 'E') := by
      rintro c hc hletter
      rcases hall c hc with hdigit | rfl | rfl
      · rw [not_isDigit_of_letter hletter] at hdigit
        cases hdigit
      · exact absurd hletter (by decide)
      · exact absurd hletter (by decide)
    constructor
    · rcases hfraction : l.fraction with _ | f
      · rfl
      · refine absurd (.inl rfl) (hletter '.' ?_)
        rw [chars, pointChars, hfraction]
        simp
    · rcases hpower : l.power with _ | p
      · rfl
      · refine absurd (.inr p.isMark) (hletter p.mark ?_)
        rw [chars, powerChars, hpower]
        simp [Power.chars]

end Numeral

end ClusterFixture.Number
