/-
JSON numbers that are no integers, from their texts back to numbers.

Such a number is written with a point or an exponent, so that its text is not read as an integer.
What is read of it need not be the same number: the digits that fit into 64 bits are scaled in
rounded steps. But it is a number, because the digits are those of the shortest decimal.
-/

import ClusterFixture.Proofs.JsonText
import ClusterFixture.Proofs.Numerals
import ClusterFixture.Proofs.Scaling

set_option autoImplicit false

namespace ClusterFixture.Json

open ClusterFixture.Number

/-! ## Exponents -/

/-- Digits of base ten are read as the number that they write. -/
theorem natIn?_ten {cs : List Char} (h : ∀ c ∈ cs, c.isDigit = true) :
    natIn? 10 cs = some (Nat.ofDigitChars 10 cs 0) := by
  have hfold : ∀ (cs : List Char) (value : Nat), (∀ c ∈ cs, c.isDigit = true) →
      cs.foldl (fun value? c => do return (← value?) * 10 + (← digitIn? 10 c)) (some value)
        = some (Nat.ofDigitChars 10 cs value) := by
    intro cs
    induction cs with
    | nil => simp
    | cons c rest ih =>
      intro value hdigits
      have hc : c.isDigit = true := hdigits c List.mem_cons_self
      have hdigit : digitIn? 10 c = some (c.toNat - '0'.toNat) := by
        have hbounds : 48 ≤ c.toNat ∧ c.toNat ≤ 57 := by
          simp only [Char.isDigit, Bool.and_eq_true, decide_eq_true_eq, ge_iff_le] at hc
          exact hc
        rw [digitIn?, hc]
        simp only [if_true, Option.filter_some]
        rw [if_pos (by simp; omega)]
        rfl
      rw [List.foldl_cons, Nat.ofDigitChars_cons, hdigit]
      simp only [Option.pure_def, Option.bind_eq_bind, Option.bind_some]
      rw [Nat.mul_comm value 10]
      exact ih _ fun d hd => hdigits d (List.mem_cons_of_mem _ hd)
  exact hfold cs 0 h

/-- The digits of an exponent write it. -/
theorem exponentDigits_spec (n : Nat) : (∀ c ∈ exponentDigits n, c.isDigit = true) ∧
    exponentDigits n ≠ [] ∧ Nat.ofDigitChars 10 (exponentDigits n) 0 = n := by
  rw [exponentDigits]
  by_cases hn : n < 10
  · have hall : ∀ k < 10, (hexDigit k).isDigit = true ∧
        Nat.ofDigitChars 10 ['0', hexDigit k] 0 = k := by
      decide
    rw [if_pos hn]
    refine ⟨?_, List.cons_ne_nil _ _, (hall n hn).2⟩
    simp only [List.forall_mem_cons]
    exact ⟨by decide, (hall n hn).1, List.forall_mem_nil _⟩
  · rw [if_neg hn]
    exact ⟨fun c hc => Nat.isDigit_of_mem_toDigits (by decide) (by decide) hc,
      Nat.toDigits_ne_nil, Nat.ofDigitChars_ten_toDigits⟩

/-- An exponent is read with its sign. -/
theorem exponent?_append (x : Int) {rest : List Char} (hrest : EndsDigits rest) :
    exponent? ((if x < 0 then '-' else '+') :: (exponentDigits x.natAbs ++ rest))
      = some (x, rest) := by
  obtain ⟨hdigits, hne, hvalue⟩ := exponentDigits_spec x.natAbs
  obtain ⟨htake, hdrop⟩ := takeWhile_isDigit hdigits hrest
  have hread := natIn?_ten hdigits
  rw [hvalue] at hread
  by_cases hx : x < 0
  · have habs : -((x.natAbs : Nat) : Int) = x := by omega
    simp only [if_pos hx, exponent?, htake, hdrop, hread, List.isEmpty_eq_false_iff.mpr hne,
      Option.getD_some, Bool.false_eq_true, if_false, if_true, habs]
  · have habs : ((x.natAbs : Nat) : Int) = x := by omega
    simp only [if_neg hx, exponent?, htake, hdrop, hread, List.isEmpty_eq_false_iff.mpr hne,
      Option.getD_some, Bool.false_eq_true, if_false, habs]

/-! ## Numerals -/

/-- A numeral without a sign: digits before and behind the point, and a power of ten. The point is
left out where no digit is behind it. -/
structure PrintedNumeral where
  whole : List Char
  fraction : List Char
  exponent? : Option Int

namespace PrintedNumeral

/-- The point and the digits behind it. -/
def pointChars (w : PrintedNumeral) : List Char :=
  if w.fraction.isEmpty then [] else '.' :: w.fraction

/-- The power of ten with its mark. -/
def powerChars (w : PrintedNumeral) : List Char :=
  match w.exponent? with
  | none => []
  | some x => 'e' :: (if x < 0 then '-' else '+') :: exponentDigits x.natAbs

def chars (w : PrintedNumeral) : List Char := w.whole ++ (w.pointChars ++ w.powerChars)

/-- All digits as one number. -/
def significand (w : PrintedNumeral) : Nat := Nat.ofDigitChars 10 (w.whole ++ w.fraction) 0

/-- The power of ten that the last digit stands for. -/
def scale (w : PrintedNumeral) : Int := w.exponent?.getD 0 - w.fraction.length

/-- A numeral of the grammar that is no integer, with as many digits before the point as are kept
exactly. -/
structure IsValid (w : PrintedNumeral) : Prop where
  whole : ∀ c ∈ w.whole, c.isDigit = true
  fraction : ∀ c ∈ w.fraction, c.isDigit = true
  lead : w.whole = ['0'] ∨ (w.whole ≠ [] ∧ w.whole.head? ≠ some '0')
  fits : Nat.ofDigitChars 10 w.whole 0 ≤ significandLimit
  noInteger : w.fraction ≠ [] ∨ w.exponent? ≠ none

variable (w : PrintedNumeral)

/-- No digit follows the digits behind the point. -/
theorem endsDigits_power {rest : List Char} (hrest : Closes rest) :
    EndsDigits (w.powerChars ++ rest) := by
  rw [powerChars]
  cases w.exponent? with
  | none => exact hrest.endsDigits
  | some x =>
    intro c hc
    cases hc
    rfl

/-- The power of ten counts for the digits before it. -/
theorem scaled?_power (neg : Bool) (s : Nat) (e : Int) {rest : List Char} (hrest : Closes rest) :
    scaled? neg s e (w.powerChars ++ rest)
      = (floatOfParts? neg s (e + w.exponent?.getD 0)).map fun j => (j, rest) := by
  rw [powerChars]
  cases w.exponent? with
  | none =>
    rw [List.nil_append, Option.getD_none, add_zero]
    cases rest with
    | nil => rfl
    | cons c rest =>
      obtain ⟨-, -, hsmall, hlarge⟩ := hrest.head
      simp [scaled?, hsmall, hlarge]
  | some x =>
    have hread := exponent?_append x hrest.endsDigits
    rw [List.cons_append, List.cons_append, scaled?, if_pos (by decide), hread, Option.getD_some]
    exact Option.map_eq_bind.symm

/-- The digits before the point are taken, and what follows them decides. -/
theorem unsigned?_whole (hw : w.IsValid) (neg : Bool) {rest : List Char} (hrest : Closes rest) :
    unsigned? neg (w.chars ++ rest) = afterWhole? neg (Nat.ofDigitChars 10 w.whole 0) 0
      (w.pointChars ++ (w.powerChars ++ rest)) := by
  have hends : EndsDigits (w.pointChars ++ (w.powerChars ++ rest)) := by
    rw [pointChars]
    by_cases hpoint : w.fraction.isEmpty = true
    · rw [if_pos hpoint]
      exact w.endsDigits_power hrest
    · rw [if_neg hpoint]
      intro c hc
      cases hc
      rfl
  rw [chars, List.append_assoc, List.append_assoc]
  exact unsigned?_digits neg hw.whole hw.lead hw.fits hends

/-- It is made of the characters that numbers are made of. -/
theorem isNumeralChar_chars (hw : w.IsValid) : ∀ c ∈ w.chars, isNumeralChar c = true := by
  have hpoint : ∀ c ∈ w.pointChars, isNumeralChar c = true := by
    rw [pointChars]
    split
    · exact List.forall_mem_nil _
    · exact List.forall_mem_cons.mpr ⟨rfl, fun c hc => isNumeralChar_of_isDigit (hw.fraction c hc)⟩
  have hpower : ∀ c ∈ w.powerChars, isNumeralChar c = true := by
    rw [powerChars]
    cases w.exponent? with
    | none => exact List.forall_mem_nil _
    | some x =>
      refine List.forall_mem_cons.mpr ⟨rfl, List.forall_mem_cons.mpr ⟨?_, fun c hc => ?_⟩⟩
      · split <;> rfl
      · exact isNumeralChar_of_isDigit ((exponentDigits_spec x.natAbs).1 c hc)
  rw [chars]
  exact List.forall_mem_append.mpr ⟨fun c hc => isNumeralChar_of_isDigit (hw.whole c hc),
    List.forall_mem_append.mpr ⟨hpoint, hpower⟩⟩

/-- The digits that are taken make no more than all of them. -/
theorem take_le_significand {n : Nat} (hn : n ≤ w.fraction.length) :
    (Nat.ofDigitChars 10 (w.whole ++ w.fraction.take n) 0 : ℚ) * 10 ^ (w.exponent?.getD 0 - n : Int)
      ≤ w.significand * 10 ^ w.scale := by
  have hdigits : w.whole ++ w.fraction = w.whole ++ w.fraction.take n ++ w.fraction.drop n := by
    rw [List.append_assoc, List.take_append_drop]
  have hlength : (w.fraction.drop n).length = w.fraction.length - n := List.length_drop
  have hnat : Nat.ofDigitChars 10 (w.whole ++ w.fraction.take n) 0 * 10 ^ (w.fraction.length - n)
      ≤ w.significand := by
    have hsum : w.significand = Nat.ofDigitChars 10 (w.fraction.drop n)
        (Nat.ofDigitChars 10 (w.whole ++ w.fraction.take n) 0) := by
      rw [← Nat.ofDigitChars_append, ← hdigits, significand]
    rw [hsum, ofDigitChars_eq (w.fraction.drop n), hlength]
    exact Nat.le_add_right _ _
  have hpow : (10 : ℚ) ^ (w.exponent?.getD 0 - n : Int)
      = (10 ^ (w.fraction.length - n) : Nat) * 10 ^ w.scale := by
    rw [Nat.cast_pow, Nat.cast_ofNat, ← zpow_natCast, scale, ← zpow_add₀ (by norm_num)]
    congr 1
    omega
  rw [hpow, ← mul_assoc]
  exact mul_le_mul_of_nonneg_right (by exact_mod_cast hnat) (zpow_nonneg (by norm_num) _)

/-- **A numeral is read from those of its digits that fit.** They are all of them where their number
does. -/
theorem unsigned?_chars (hw : w.IsValid) :
    ∃ (s : Nat) (f : Int), s ≤ significandLimit ∧
      (s : ℚ) * 10 ^ f ≤ w.significand * 10 ^ w.scale ∧
      (w.significand ≤ significandLimit → s = w.significand ∧ f = w.scale) ∧
      ∀ neg rest, Closes rest →
        unsigned? neg (w.chars ++ rest) = (floatOfParts? neg s f).map fun j => (j, rest) := by
  by_cases hpoint : w.fraction = []
  -- Without a point there is a power, and the digits before it are all there are.
  · obtain ⟨x, hx⟩ :=
      Option.ne_none_iff_exists'.mp (hw.noInteger.resolve_left (not_not_intro hpoint))
    have hsig : w.significand = Nat.ofDigitChars 10 w.whole 0 := by
      rw [significand, hpoint, List.append_nil]
    have hscale : w.scale = x := by
      rw [scale, hpoint, hx]
      exact sub_zero x
    refine ⟨w.significand, w.scale, hsig ▸ hw.fits, le_refl _, fun _ => ⟨rfl, rfl⟩,
      fun neg rest hrest => ?_⟩
    have hpower : w.powerChars ++ rest
        = 'e' :: (if x < 0 then '-' else '+') :: (exponentDigits x.natAbs ++ rest) := by
      rw [powerChars, hx]
      rfl
    have hscaled := w.scaled?_power neg w.significand 0 hrest
    rw [w.unsigned?_whole hw neg hrest, pointChars, hpoint, List.isEmpty_nil, if_pos rfl,
      List.nil_append, ← hsig, hscale]
    rw [hx, Option.getD_some, zero_add] at hscaled
    rw [← hscaled, hpower]
    rfl
  -- Behind a point the first `n` digits are taken, and the others are passed over.
  · obtain ⟨n, hn, hle, hall, htake⟩ := exists_takeSignificand w.fraction hw.fraction hw.fits
    have hsig : w.significand = Nat.ofDigitChars 10 w.fraction (Nat.ofDigitChars 10 w.whole 0) := by
      rw [significand, Nat.ofDigitChars_append]
    refine ⟨_, w.exponent?.getD 0 - n, hle, ?_, fun hfits => ?_, fun neg rest hrest => ?_⟩
    · rw [← Nat.ofDigitChars_append]
      exact w.take_le_significand hn
    · rw [hsig] at hfits ⊢
      rw [hall hfits, List.take_length]
      exact ⟨rfl, rfl⟩
    · have hends := w.endsDigits_power hrest
      have hleft : ∀ c ∈ w.fraction.drop n, c.isDigit = true :=
        fun c hc => hw.fraction c (List.mem_of_mem_drop hc)
      have hsome : 0 + n + (w.fraction.drop n).length ≠ 0 := by
        have hpos := List.length_pos_of_ne_nil hpoint
        rw [List.length_drop]
        omega
      rw [w.unsigned?_whole hw neg hrest, pointChars,
        if_neg (by rw [List.isEmpty_iff]; exact hpoint), List.cons_append, afterWhole?]
      simp only [htake 0 _ hends, skipDigits_append _ hleft hends]
      rw [if_neg hsome, w.scaled?_power neg _ _ hrest]
      congr 2
      omega

end PrintedNumeral

/-! ## The numeral that is printed -/

/-- Digits are less than the power of ten of their length. -/
theorem ofDigitChars_lt {cs : List Char} (h : ∀ c ∈ cs, c.isDigit = true) :
    Nat.ofDigitChars 10 cs 0 < 10 ^ cs.length := by
  induction cs with
  | nil => simp
  | cons c rest ih =>
    obtain ⟨hc, hrest⟩ := List.forall_mem_cons.mp h
    have hdigit : c.toNat - '0'.toNat ≤ 9 := by
      simp only [Char.isDigit, Bool.and_eq_true, decide_eq_true_eq] at hc
      have hhigh : c.toNat ≤ 57 := hc.2
      rw [show '0'.toNat = 48 from rfl]
      omega
    have hlead := Nat.mul_le_mul_right (10 ^ rest.length) hdigit
    have hrest' := ih hrest
    rw [Nat.ofDigitChars_cons, Nat.mul_zero, Nat.zero_add, ofDigitChars_eq, List.length_cons,
      Nat.pow_succ]
    omega

/-- Up to sixteen digits are kept exactly. -/
theorem ofDigitChars_le_limit {cs : List Char} (h : ∀ c ∈ cs, c.isDigit = true)
    (hlength : cs.length ≤ 17) : Nat.ofDigitChars 10 cs 0 ≤ significandLimit := by
  have hpow : 10 ^ cs.length ≤ 10 ^ 17 := Nat.pow_le_pow_right (by decide) hlength
  have hlimit : 10 ^ 17 ≤ significandLimit := by decide
  exact ((ofDigitChars_lt h).le.trans hpow).trans hlimit

/-- The digits of a positive number begin with one that is not zero. -/
theorem exists_toDigits_eq_cons {k : Nat} (hk : 0 < k) :
    ∃ d rest, Nat.toDigits 10 k = d :: rest ∧ d ≠ '0' := by
  have hhead := head?_toDigits_ne_zero k hk
  cases hdigits : Nat.toDigits 10 k with
  | nil => exact absurd hdigits Nat.toDigits_ne_nil
  | cons d rest =>
    rw [hdigits] at hhead
    exact ⟨d, rest, rfl, by simpa using hhead⟩

theorem isDigit_toDigits (n : Nat) : ∀ c ∈ Nat.toDigits 10 n, c.isDigit = true :=
  fun _ hc => Nat.isDigit_of_mem_toDigits (by decide) (by decide) hc

/-- The numeral of digits whose last one stands for 10^p. -/
def printed (k : Nat) (p : Int) : PrintedNumeral :=
  let digits := Nat.toDigits 10 k
  let first : Int := digits.length + p - 1
  let places := (-p).toNat
  if -5 ≤ first ∧ first ≤ 15 then
    if 0 ≤ p then ⟨digits ++ List.replicate p.toNat '0', ['0'], none⟩
    else if places < digits.length then
      ⟨digits.take (digits.length - places), digits.drop (digits.length - places), none⟩
    else ⟨['0'], List.replicate (places - digits.length) '0' ++ digits, none⟩
  else ⟨digits.take 1, digits.drop 1, some first⟩

/-- It is what is printed. -/
theorem chars_printed (k : Nat) (p : Int) : (printed k p).chars = decimalChars k p := by
  have hmark : ∀ x : Int, 'e' :: (if x < 0 then '-' else '+') :: exponentDigits x.natAbs
      = (if x < 0 then ['e', '-'] else ['e', '+']) ++ exponentDigits x.natAbs := by
    intro x
    split <;> rfl
  simp only [printed, decimalChars, Binary64.positional, Bool.and_eq_true, decide_eq_true_eq]
  by_cases hfirst : -5 ≤ ((Nat.toDigits 10 k).length : Int) + p - 1 ∧
      ((Nat.toDigits 10 k).length : Int) + p - 1 ≤ 15
  · simp only [if_pos hfirst]
    by_cases hp : 0 ≤ p
    · simp [if_pos hp, PrintedNumeral.chars, PrintedNumeral.pointChars, PrintedNumeral.powerChars]
    · simp only [if_neg hp]
      by_cases hplaces : (-p).toNat < (Nat.toDigits 10 k).length
      · have hbehind : ((Nat.toDigits 10 k).drop
            ((Nat.toDigits 10 k).length - (-p).toNat)).isEmpty = false := by
          rw [← List.length_eq_zero_iff.not.trans List.isEmpty_eq_false_iff.symm, List.length_drop]
          omega
        simp [if_pos hplaces, PrintedNumeral.chars, PrintedNumeral.pointChars,
          PrintedNumeral.powerChars, hbehind]
      · simp [if_neg hplaces, PrintedNumeral.chars, PrintedNumeral.pointChars,
          PrintedNumeral.powerChars, Nat.toDigits_ne_nil]
  · simp only [if_neg hfirst]
    cases hdigits : Nat.toDigits 10 k with
    | nil => exact absurd hdigits Nat.toDigits_ne_nil
    | cons d rest =>
      simp only [PrintedNumeral.chars, PrintedNumeral.pointChars, PrintedNumeral.powerChars, hmark]
      cases rest with
      | nil => simp
      | cons d' rest => simp

/-- What a numeral of the number k · 10^p is to the reader. -/
structure PrintedNumeral.Names (w : PrintedNumeral) (k : Nat) (p : Int) : Prop where
  valid : w.IsValid
  value : (w.significand : ℚ) * 10 ^ w.scale = k * 10 ^ p
  fits : k ≤ significandLimit → w.significand ≤ significandLimit
  exact : 0 ≤ w.scale → w.significand = k ∧ w.scale = p

namespace PrintedNumeral.Names

variable {k : Nat} {p : Int}

/-- Digits with zeros behind them and a zero behind the point. -/
theorem zeros (hp : 0 ≤ p) (hk : 0 < k ∨ p = 0) (hlength : (Nat.toDigits 10 k).length + p ≤ 16) :
    Names ⟨Nat.toDigits 10 k ++ List.replicate p.toNat '0', ['0'], none⟩ k p := by
  have hwhole : ∀ c ∈ Nat.toDigits 10 k ++ List.replicate p.toNat '0', c.isDigit = true := by
    simp only [List.mem_append, List.mem_replicate]
    rintro c (hc | ⟨-, rfl⟩)
    · exact isDigit_toDigits k c hc
    · rfl
  have hzero : ∀ c ∈ ['0'], c.isDigit = true := List.forall_mem_singleton.mpr rfl
  have hsig : significand ⟨Nat.toDigits 10 k ++ List.replicate p.toNat '0', ['0'], none⟩
      = k * 10 ^ (p.toNat + 1) := by
    rw [significand, Nat.ofDigitChars_append, Nat.ofDigitChars_append,
      Nat.ofDigitChars_ten_toDigits, Nat.ofDigitChars_replicate_zero,
      show ['0'] = List.replicate 1 '0' from rfl, Nat.ofDigitChars_replicate_zero]
    ring
  refine ⟨⟨hwhole, hzero, ?_, ofDigitChars_le_limit hwhole ?_, .inl (List.cons_ne_nil _ _)⟩, ?_,
    fun _ => ofDigitChars_le_limit ?_ ?_, fun hscale => ?_⟩
  · rcases hk with hk | rfl
    · obtain ⟨d, rest, hdigits, hd⟩ := exists_toDigits_eq_cons hk
      simp [hdigits, hd]
    · simpa using toDigits_lead k
  · rw [List.length_append, List.length_replicate]
    omega
  · rw [hsig, Nat.cast_mul, mul_assoc]
    congr 1
    rw [Nat.cast_pow, ← zpow_natCast, Nat.cast_ofNat, ← zpow_add₀ (by norm_num)]
    congr 1
    simp only [scale, Option.getD_none, List.length_singleton]
    omega
  · intro c hc
    rcases List.mem_append.mp hc with hc | hc
    · exact hwhole c hc
    · exact hzero c hc
  · rw [List.length_append, List.length_append, List.length_replicate, List.length_singleton]
    omega
  · simp [scale] at hscale

/-- Digits with the point between them or a power behind them. -/
theorem split (hk : 0 < k) {n : Nat} (hn : 0 < n) (hlength : n ≤ 16) {exponent? : Option Int}
    (hmark : n < (Nat.toDigits 10 k).length ∨ exponent? ≠ none)
    (hscale : exponent?.getD 0 - ((Nat.toDigits 10 k).length - n : Nat) = p) :
    Names ⟨(Nat.toDigits 10 k).take n, (Nat.toDigits 10 k).drop n, exponent?⟩ k p := by
  have hsig :
      significand ⟨(Nat.toDigits 10 k).take n, (Nat.toDigits 10 k).drop n, exponent?⟩ = k := by
    rw [significand, List.take_append_drop, Nat.ofDigitChars_ten_toDigits]
  have hscale' : scale ⟨(Nat.toDigits 10 k).take n, (Nat.toDigits 10 k).drop n, exponent?⟩ = p := by
    rw [scale, List.length_drop, hscale]
  have hwhole : ∀ c ∈ (Nat.toDigits 10 k).take n, c.isDigit = true :=
    fun c hc => isDigit_toDigits k c (List.mem_of_mem_take hc)
  refine ⟨⟨hwhole, fun c hc => isDigit_toDigits k c (List.mem_of_mem_drop hc), .inr ?_,
    ofDigitChars_le_limit hwhole ?_, ?_⟩, by rw [hsig, hscale'], fun hfits => hsig.symm ▸ hfits,
    fun _ => ⟨hsig, hscale'⟩⟩
  · obtain ⟨d, rest, hdigits, hd⟩ := exists_toDigits_eq_cons hk
    obtain ⟨n, rfl⟩ := Nat.exists_eq_succ_of_ne_zero hn.ne'
    simp [hdigits, hd]
  · rw [List.length_take]
    omega
  · refine hmark.imp_left fun hlt hnil => ?_
    have hzero := congrArg List.length hnil
    rw [List.length_drop, List.length_nil] at hzero
    omega

/-- Digits behind the point, zeros before them. -/
theorem behind {n : Nat} (hscale : (n + (Nat.toDigits 10 k).length : Int) = -p) :
    Names ⟨['0'], List.replicate n '0' ++ Nat.toDigits 10 k, none⟩ k p := by
  have hsig : significand ⟨['0'], List.replicate n '0' ++ Nat.toDigits 10 k, none⟩ = k := by
    rw [significand, Nat.ofDigitChars_append, Nat.ofDigitChars_append,
      Nat.ofDigitChars_replicate_zero, show Nat.ofDigitChars 10 ['0'] 0 = 0 from rfl, Nat.mul_zero,
      Nat.ofDigitChars_ten_toDigits]
  have hscale' : scale ⟨['0'], List.replicate n '0' ++ Nat.toDigits 10 k, none⟩ = p := by
    simp only [scale, Option.getD_none, List.length_append, List.length_replicate, Nat.cast_add]
    omega
  have hwhole : ∀ c ∈ ['0'], c.isDigit = true := List.forall_mem_singleton.mpr rfl
  refine ⟨⟨hwhole, fun c hc => ?_, .inl rfl, ofDigitChars_le_limit hwhole (by simp),
    .inl (by simp [Nat.toDigits_ne_nil])⟩, by rw [hsig, hscale'], fun hfits => hsig.symm ▸ hfits,
    fun _ => ⟨hsig, hscale'⟩⟩
  rcases List.mem_append.mp hc with hc | hc
  · rw [List.eq_of_mem_replicate hc]
    rfl
  · exact isDigit_toDigits k c hc

end PrintedNumeral.Names

/-- What is printed names the number. -/
theorem names_printed {k : Nat} {p : Int} (hk : 0 < k ∨ p = 0) : (printed k p).Names k p := by
  have hpos : 0 < (Nat.toDigits 10 k).length := Nat.length_toDigits_pos
  simp only [printed]
  by_cases hfirst : -5 ≤ ((Nat.toDigits 10 k).length : Int) + p - 1 ∧
      ((Nat.toDigits 10 k).length : Int) + p - 1 ≤ 15
  · rw [if_pos hfirst]
    by_cases hp : 0 ≤ p
    · rw [if_pos hp]
      exact .zeros hp hk (by omega)
    · rw [if_neg hp]
      by_cases hplaces : (-p).toNat < (Nat.toDigits 10 k).length
      · rw [if_pos hplaces]
        exact .split (by omega) (by omega) (by omega) (.inl (by omega))
          (by rw [Option.getD_none]; omega)
      · rw [if_neg hplaces]
        exact .behind (by omega)
  · rw [if_neg hfirst]
    -- Zero is written without a power.
    have hk' : 0 < k := by
      by_contra hzero
      obtain rfl : k = 0 := by omega
      rw [Nat.toDigits_zero, List.length_singleton] at hfirst
      omega
    exact .split hk' one_pos (by decide) (.inr (by simp)) (by rw [Option.getD_some]; omega)

/-! ## Finite numbers -/

open Binary64 (IsFinite shortest)

/-- What is printed of a number without its sign. -/
def unsignedChars (m : Nat) (e : Int) : List Char :=
  if m = 0 then ['0', '.', '0'] else decimalChars (shortest m e).1 (shortest m e).2

/-- It is the text of digits that can be scaled to a number, and so can any lesser ones that are
taken of them. -/
theorem exists_decimal {m : Nat} {e : Int} (hfits : Binary64.Fits m e) :
    ∃ k p, unsignedChars m e = decimalChars k p ∧ (0 < k ∨ p = 0) ∧
      ∀ (s : Nat) (f : Int), s ≤ significandLimit → (s : ℚ) * 10 ^ f ≤ k * 10 ^ p →
        (k ≤ significandLimit → 0 ≤ f → s = k ∧ f = p) →
        ∃ y, scaleByTen (.ofRatio false s 1) f 4 = some y := by
  rw [unsignedChars]
  by_cases hm : m = 0
  · rw [if_pos hm]
    refine ⟨0, 0, by decide, .inr rfl, fun s f _ _ hexact => ?_⟩
    rcases lt_or_ge f 0 with hf | hf
    · exact Binary64.exists_scaleByTen_of_neg 4 hf
    · obtain ⟨rfl, rfl⟩ := hexact (Nat.zero_le _) hf
      exact Option.isSome_iff_exists.mp (by decide +kernel)
  · rw [if_neg hm]
    exact ⟨_, _, rfl, (Binary64.shortest_spec m e).2,
      fun _ _ hs hle hexact => Binary64.exists_scaleByTen_shortest hfits hs hle hexact⟩

/-- The text of a number without its sign is read as a number, with either sign. -/
theorem exists_unsigned? {m : Nat} {e : Int} (hfits : Binary64.Fits m e) :
    ∃ y : Binary64, ∀ neg rest, Closes rest → unsigned? neg (unsignedChars m e ++ rest)
      = some (.float (if neg then y.neg else y), rest) := by
  obtain ⟨k, p, hchars, hk, hscale⟩ := exists_decimal hfits
  have hnames := names_printed hk
  obtain ⟨s, f, hs, hle, hall, hread⟩ := (printed k p).unsigned?_chars hnames.valid
  obtain ⟨y, hy⟩ := hscale s f hs (hle.trans_eq hnames.value) fun hfit hf => by
    obtain ⟨rfl, rfl⟩ := hall (hnames.fits hfit)
    exact hnames.exact hf
  refine ⟨y, fun neg rest hrest => ?_⟩
  rw [hchars, ← chars_printed, hread neg rest hrest, floatOfParts?, hy]
  rfl

/-- It begins with a digit. -/
theorem exists_unsignedChars_eq_cons {m : Nat} {e : Int} (hfits : Binary64.Fits m e) :
    ∃ c cs, unsignedChars m e = c :: cs ∧ c.isDigit = true := by
  obtain ⟨k, p, hchars, hk, -⟩ := exists_decimal hfits
  have hvalid := (names_printed hk).valid
  rw [hchars, ← chars_printed, PrintedNumeral.chars]
  cases hwhole : (printed k p).whole with
  | nil =>
    have hlead := hvalid.lead
    rw [hwhole] at hlead
    exact absurd hlead (by simp)
  | cons c cs => exact ⟨c, _, rfl, hvalid.whole c (hwhole ▸ List.mem_cons_self)⟩

/-- The text of a finite number is made of the characters that numbers are made of. -/
theorem isNumeralChar_floatChars {x : Binary64} (hx : IsFinite x) :
    ∀ c ∈ floatChars x, isNumeralChar c = true := by
  cases x with
  | infinite neg => exact hx.elim
  | nan => exact hx.elim
  | finite neg m e =>
    obtain ⟨k, p, hchars, hk, -⟩ := exists_decimal hx
    have hbody : ∀ c ∈ unsignedChars m e, isNumeralChar c = true := by
      rw [hchars, ← chars_printed]
      exact (printed k p).isNumeralChar_chars (names_printed hk).valid
    have hsign : floatChars (.finite neg m e)
        = if neg then '-' :: unsignedChars m e else unsignedChars m e := rfl
    rw [hsign]
    cases neg with
    | true => exact List.forall_mem_cons.mpr ⟨rfl, hbody⟩
    | false => exact hbody

/-- **The text of a finite number is read as a number**, which need not be the same one. -/
theorem floatReads_of_isFinite {x : Binary64} (hx : IsFinite x) : FloatReads x := by
  cases x with
  | infinite neg => exact hx.elim
  | nan => exact hx.elim
  | finite neg m e =>
    obtain ⟨y, hread⟩ := exists_unsigned? hx
    obtain ⟨c, cs, hcons, hc⟩ := exists_unsignedChars_eq_cons hx
    have hchars : floatChars (.finite neg m e)
        = if neg then '-' :: unsignedChars m e else unsignedChars m e := rfl
    have hvalue : ∀ fuel levels rest, Closes rest →
        value? (fuel + 1) levels (floatChars (.finite neg m e) ++ rest)
          = some (.float (if neg then y.neg else y), rest) := by
      intro fuel levels rest hrest
      have hunsigned := hread neg rest hrest
      rw [hchars]
      cases neg with
      | true => rw [if_pos rfl, List.cons_append, value?_minus, hunsigned]
      | false =>
        rw [hcons, List.cons_append] at hunsigned
        rw [if_neg Bool.false_ne_true, hcons, List.cons_append, value?_digit _ _ hc, hunsigned]
    refine ⟨?_, fun fuel levels rest hrest => ?_⟩
    · rw [hchars]
      cases neg with
      | true => exact ⟨'-', _, rfl, rfl, by decide⟩
      | false => exact ⟨c, cs, hcons, not_isSpace_of_isDigit hc, ne_of_isDigit hc rfl⟩
    -- What is read of the text alone is what is read of it anywhere.
    · have hself := hvalue 0 1 [] closes_nil
      rw [List.append_nil] at hself
      rw [hvalue fuel levels rest hrest, rereadFloat, hself]
      rfl

end ClusterFixture.Json
