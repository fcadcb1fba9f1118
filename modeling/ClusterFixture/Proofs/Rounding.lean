/-
The number of the format that is nearest to a rational number.

A quotient is scaled so that its significand has 53 bits, or has fewer at the least exponent, and is
then rounded to an integer. That this integer is nearest among integers makes the result nearest in
the whole format: numbers of a greater exponent are integers on the same scale, and numbers of a
smaller one, which there are only where the significand has all its bits, lie below all of its
binade. What is said of ties holds for the same reason.
-/

import ClusterFixture.Number.Decimal
import Mathlib.Algebra.Order.Field.Power
import Mathlib.Algebra.Order.Field.Rat
import Mathlib.Data.Nat.Cast.Field
import Mathlib.Data.Rat.Cast.Order
import Mathlib.Tactic.FieldSimp
import Mathlib.Tactic.Linarith
import Mathlib.Tactic.NormNum
import Mathlib.Tactic.Positivity
import Mathlib.Tactic.Ring

set_option autoImplicit false

namespace ClusterFixture.Number

theorem twoTo_eq (n : Nat) : twoTo n = 2 ^ n := rfl

theorem tenTo_eq (n : Nat) : tenTo n = 10 ^ n := rfl

theorem twoTo_pos (n : Nat) : 0 < twoTo n := Nat.pow_pos (by decide)

theorem tenTo_pos (n : Nat) : 0 < tenTo n := Nat.pow_pos (by decide)

namespace Binary64

/-! ## Values -/

/-- The magnitude m · 2^e. -/
def magnitude (m : Nat) (e : Int) : ℚ := m * 2 ^ e

/-- A magnitude with a sign. -/
def signed (neg : Bool) (t : ℚ) : ℚ := if neg then -t else t

/-- The value of a finite number. -/
def value? : Binary64 → Option ℚ
  | .finite neg m e => some (signed neg (magnitude m e))
  | .infinite _ => none
  | .nan => none

theorem abs_signed (neg : Bool) (t : ℚ) : |signed neg t| = |t| := by
  cases neg
  · rfl
  · exact abs_neg t

theorem signed_neg_iff (neg : Bool) {t : ℚ} (ht : 0 < t) : signed neg t < 0 ↔ neg = true := by
  cases neg
  · exact iff_of_false (not_lt.mpr ht.le) (by simp)
  · exact iff_of_true (neg_lt_zero.mpr ht) rfl

/-! ## What rounding means -/

/-- Significands and exponents of the format. -/
structure Fits (m : Nat) (e : Int) : Prop where
  bits : m < 2 ^ 53
  low : minExponent ≤ e
  high : e ≤ maxExponent

/-- Half a unit above the greatest number of the format; what is not below it is rounded to
infinity. -/
def limit : ℚ := (2 ^ 53 - 1 / 2) * 2 ^ maxExponent

/-- The magnitude of the format that is nearest to another one. Of two nearest ones it is that with
the even significand, where significands have as many bits as the exponent leaves room for. -/
structure IsNearest (t : ℚ) (m : Nat) (e : Int) : Prop where
  fits : Fits m e
  normal : m = 0 ∨ 2 ^ 52 ≤ m ∨ e = minExponent
  nearest : ∀ {m' e'}, Fits m' e' → |magnitude m e - t| ≤ |magnitude m' e' - t|
  even : ∀ {m' e'}, Fits m' e' → |magnitude m' e' - t| = |magnitude m e - t| →
    magnitude m' e' ≠ magnitude m e → Even m

/-- The number of the format that a rational number is rounded to. Both have the same sign; the sign
of zero is left open where zero itself is rounded. -/
def RoundsTo (q : ℚ) : Binary64 → Prop
  | .finite neg m e => |q| < limit ∧ IsNearest |q| m e ∧ (q ≠ 0 → neg = decide (q < 0))
  | .infinite neg => limit ≤ |q| ∧ neg = decide (q < 0)
  | .nan => False

theorem fits_zero : Fits 0 0 := ⟨by decide, by decide, by decide⟩

/-! ## Nearest integers -/

/-- A natural number nearest to a rational number, and even if there are two. -/
structure IsRounded (s : ℚ) (m : Nat) : Prop where
  near : |(m : ℚ) - s| ≤ 1 / 2
  even : |(m : ℚ) - s| = 1 / 2 → Even m

theorem divEven_isRounded (num : Nat) {den : Nat} (hden : 0 < den) :
    IsRounded (num / den) (divEven num den) := by
  have hden' : (0 : ℚ) < den := Nat.cast_pos.mpr hden
  -- The quotient is the integer part and a remainder below one.
  have hdiv : (num : ℚ) = den * (num / den : Nat) + (num % den : Nat) := by
    exact_mod_cast (Nat.div_add_mod num den).symm
  have hpart : (num : ℚ) / den = (num / den : Nat) + (num % den : Nat) / den := by
    conv_lhs => rw [hdiv, add_div, mul_div_cancel_left₀ _ hden'.ne']
  set q := num / den with hq
  set r := num % den with hr
  have hdown : |(q : ℚ) - num / den| = r / den := by
    rw [hpart, sub_add_cancel_left, abs_neg, abs_of_nonneg (by positivity)]
  have hup : r ≤ den → |((q + 1 : Nat) : ℚ) - num / den| = 1 - r / den := by
    intro hle
    have hle' : (r : ℚ) / den ≤ 1 := (div_le_one hden').mpr (Nat.cast_le.mpr hle)
    rw [hpart, Nat.cast_add, Nat.cast_one, add_sub_add_left_eq_sub, abs_of_nonneg (by linarith)]
  have hlt : r < den := Nat.mod_lt _ hden
  rw [divEven]
  simp only [← hq, ← hr]
  split
  · next hless =>
    have hhalf : (r : ℚ) / den < 1 / 2 := by
      rw [div_lt_div_iff₀ hden' two_pos]
      exact_mod_cast (by omega : r * 2 < 1 * den)
    exact ⟨hdown.trans_le hhalf.le, fun h => absurd (hdown.symm.trans h) hhalf.ne⟩
  split
  · next hmore =>
    have hhalf : 1 / 2 < (r : ℚ) / den := by
      rw [div_lt_div_iff₀ two_pos hden']
      exact_mod_cast (by omega : 1 * den < r * 2)
    have hup' := hup hlt.le
    exact ⟨by linarith, fun h => absurd (hup'.symm.trans h) (by linarith)⟩
  · next hless hmore =>
    have hhalf : (r : ℚ) / den = 1 / 2 := by
      rw [div_eq_div_iff hden'.ne' two_ne_zero]
      exact_mod_cast (by omega : r * 2 = 1 * den)
    split
    · next heven => exact ⟨(hdown.trans hhalf).le, fun _ => Nat.even_iff.mpr heven⟩
    · next hodd =>
      have hup' := hup hlt.le
      exact ⟨by linarith, fun _ => Nat.even_add_one.mpr fun heven => hodd (Nat.even_iff.mp heven)⟩

/-- No integer is nearer, and one that is as near is the number itself, unless that is even. -/
theorem IsRounded.le_abs {s : ℚ} {m : Nat} (h : IsRounded s m) (k : Int) :
    |(m : ℚ) - s| ≤ |(k : ℚ) - s| ∧ (|(k : ℚ) - s| = |(m : ℚ) - s| → (k : ℚ) ≠ m → Even m) := by
  by_cases hk : k = m
  · subst hk
    simp
  · -- Two integers are one apart, so the other one is at least a half away.
    have hapart : (1 : ℚ) ≤ |(k : ℚ) - m| := by
      have hint : 1 ≤ |k - (m : Int)| := Int.one_le_abs (sub_ne_zero.mpr hk)
      exact_mod_cast hint
    have htriangle : |(k : ℚ) - m| ≤ |(k : ℚ) - s| + |(m : ℚ) - s| := by
      calc |(k : ℚ) - m| = |((k : ℚ) - s) - ((m : ℚ) - s)| := by rw [sub_sub_sub_cancel_right]
        _ ≤ _ := abs_sub _ _
    have hnear := h.near
    refine ⟨by linarith, fun hsame _ => h.even (by linarith)⟩

/-! ## On the scale of a significand -/

section

variable {t s : ℚ} {e : Int} {m : Nat}

theorem magnitude_sub_eq (hs : t = s * 2 ^ e) (k : ℚ) : |k * 2 ^ e - t| = |k - s| * 2 ^ e := by
  have hunit : (0 : ℚ) < 2 ^ e := zpow_pos two_pos e
  rw [hs, ← sub_mul, abs_mul, abs_of_pos hunit]

/-- A magnitude of no smaller exponent is an integer on the scale. -/
theorem magnitude_eq_of_le (m' : Nat) {e' : Int} (he : e ≤ e') :
    magnitude m' e' = ((m' * twoTo (e' - e).toNat : Nat) : ℚ) * 2 ^ e := by
  have hsplit : (2 : ℚ) ^ e' = 2 ^ (e' - e).toNat * 2 ^ e := by
    rw [← zpow_natCast, Int.toNat_of_nonneg (by omega), ← zpow_add₀ two_ne_zero, sub_add_cancel]
  rw [magnitude, hsplit, twoTo_eq]
  push_cast
  ring

theorem exists_integer_of_le (m' : Nat) {e' : Int} (he : e ≤ e') :
    ∃ k : Int, magnitude m' e' = k * 2 ^ e :=
  ⟨(m' * twoTo (e' - e).toNat : Nat), by rw [magnitude_eq_of_le m' he, Int.cast_natCast]⟩

/-- A magnitude of a smaller exponent lies below the numbers of all bits. -/
theorem magnitude_lt_of_lt {m' : Nat} {e' : Int} (hm' : m' < 2 ^ 53) (he : e' < e) :
    magnitude m' e' < 2 ^ 52 * 2 ^ e := by
  have hsig : (m' : ℚ) < 2 ^ 53 := by exact_mod_cast hm'
  calc magnitude m' e' < 2 ^ 53 * 2 ^ e' :=
        mul_lt_mul_of_pos_right hsig (zpow_pos two_pos e')
    _ = 2 ^ 52 * 2 ^ (e' + 1) := by rw [zpow_add_one₀ two_ne_zero]; ring
    _ ≤ 2 ^ 52 * 2 ^ e :=
        mul_le_mul_of_nonneg_left (zpow_le_zpow_right₀ one_le_two (by omega)) (by positivity)

/-- An integer that is nearest to the scaled number gives the nearest magnitude. -/
theorem IsRounded.nearest (h : IsRounded s m) (hs : t = s * 2 ^ e)
    (hbits : 2 ^ 52 ≤ s ∨ e = minExponent) {m' : Nat} {e' : Int} (hfits : Fits m' e') :
    |magnitude m e - t| ≤ |magnitude m' e' - t| ∧
      (|magnitude m' e' - t| = |magnitude m e - t| → magnitude m' e' ≠ magnitude m e → Even m) := by
  have hunit : (0 : ℚ) < 2 ^ e := zpow_pos two_pos e
  rw [magnitude, magnitude_sub_eq hs]
  by_cases he : e ≤ e'
  · obtain ⟨k, hk⟩ := exists_integer_of_le m' he
    obtain ⟨hle, heven⟩ := h.le_abs k
    rw [hk, magnitude_sub_eq hs]
    refine ⟨mul_le_mul_of_nonneg_right hle hunit.le, fun hsame hne => heven ?_ fun hkm => ?_⟩
    · exact mul_right_cancel₀ hunit.ne' hsame
    · exact hne (by rw [hkm])
  · -- Such a number lies below the least one of all bits, which is an integer and nearer.
    have hall : 2 ^ 52 ≤ s := hbits.resolve_right fun hmin => he (hmin ▸ hfits.low)
    have hle := (h.le_abs (2 ^ 52)).1
    have hleast : |((2 ^ 52 : Int) : ℚ) - s| = s - 2 ^ 52 := by
      rw [Int.cast_pow, Int.cast_ofNat, abs_sub_comm, abs_of_nonneg (sub_nonneg.mpr hall)]
    have hbelow := magnitude_lt_of_lt hfits.bits (not_le.mp he)
    have hfar : |(m : ℚ) - s| * 2 ^ e < |magnitude m' e' - t| := by
      calc |(m : ℚ) - s| * 2 ^ e ≤ (s - 2 ^ 52) * 2 ^ e := by
            rw [← hleast]
            exact mul_le_mul_of_nonneg_right hle hunit.le
        _ = t - 2 ^ 52 * 2 ^ e := by rw [hs]; ring
        _ < t - magnitude m' e' := by linarith
        _ ≤ |magnitude m' e' - t| := by
            rw [abs_sub_comm]
            exact le_abs_self _
    exact ⟨hfar.le, fun hsame => absurd hsame hfar.ne'⟩

end

/-! ## Scaling a quotient -/

/-- Numerator and denominator are scaled as the quotient is. -/
theorem scaled_eq (num : Nat) {den : Nat} (hden : 0 < den) (e : Int) :
    0 < (scaled num den e).2 ∧
      (num : ℚ) / den = ((scaled num den e).1 : ℚ) / (scaled num den e).2 * 2 ^ e := by
  have hden' : (den : ℚ) ≠ 0 := Nat.cast_ne_zero.mpr hden.ne'
  rw [scaled]
  split
  · next he =>
    have hpow : (2 : ℚ) ^ e = 2 ^ e.toNat := by
      rw [← zpow_natCast, Int.toNat_of_nonneg he]
    refine ⟨Nat.mul_pos hden (twoTo_pos _), ?_⟩
    rw [hpow, twoTo_eq]
    push_cast
    field_simp
  · next he =>
    have hpow : (2 : ℚ) ^ e = (2 ^ (-e).toNat)⁻¹ := by
      rw [← zpow_natCast, Int.toNat_of_nonneg (by omega), ← zpow_neg, neg_neg]
    refine ⟨hden, ?_⟩
    rw [hpow, twoTo_eq]
    push_cast
    field_simp

/-- The two powers of two next to a number. -/
theorem log2_bounds {n : Nat} (hn : 0 < n) :
    (2 : ℚ) ^ (Nat.log2 n : Int) ≤ n ∧ (n : ℚ) < 2 ^ ((Nat.log2 n : Int) + 1) := by
  have hlow : 2 ^ Nat.log2 n ≤ n := Nat.log2_self_le hn.ne'
  have hhigh : n < 2 ^ (Nat.log2 n + 1) := Nat.lt_log2_self
  constructor
  · rw [zpow_natCast]
    exact_mod_cast hlow
  · rw [← Nat.cast_succ, zpow_natCast]
    exact_mod_cast hhigh

/-- At the first guess the significand has 52 or 53 bits. -/
theorem guess_bounds {num den : Nat} (hnum : 0 < num) (hden : 0 < den) :
    let guess : Int := (Nat.log2 num : Int) - (Nat.log2 den : Int) - 52
    (2 : ℚ) ^ 51 * 2 ^ guess < (num : ℚ) / den ∧ (num : ℚ) / den < 2 ^ 53 * 2 ^ guess := by
  intro guess
  have hden' : (0 : ℚ) < den := Nat.cast_pos.mpr hden
  obtain ⟨hnumLow, hnumHigh⟩ := log2_bounds hnum
  obtain ⟨hdenLow, hdenHigh⟩ := log2_bounds hden
  set a : Int := (Nat.log2 num : Int)
  set b : Int := (Nat.log2 den : Int)
  have hlow : (2 : ℚ) ^ 51 * 2 ^ guess * 2 ^ (b + 1) = 2 ^ a := by
    rw [← zpow_natCast, ← zpow_add₀ two_ne_zero, ← zpow_add₀ two_ne_zero]
    congr 1
    push_cast
    omega
  have hhigh : (2 : ℚ) ^ 53 * 2 ^ guess * 2 ^ b = 2 ^ (a + 1) := by
    rw [← zpow_natCast, ← zpow_add₀ two_ne_zero, ← zpow_add₀ two_ne_zero]
    congr 1
    push_cast
    omega
  constructor
  · rw [lt_div_iff₀ hden']
    calc (2 : ℚ) ^ 51 * 2 ^ guess * den < 2 ^ 51 * 2 ^ guess * 2 ^ (b + 1) :=
          mul_lt_mul_of_pos_left hdenHigh (by positivity)
      _ = 2 ^ a := hlow
      _ ≤ num := hnumLow
  · rw [div_lt_iff₀ hden']
    calc (num : ℚ) < 2 ^ (a + 1) := hnumHigh
      _ = 2 ^ 53 * 2 ^ guess * 2 ^ b := hhigh.symm
      _ ≤ 2 ^ 53 * 2 ^ guess * den := mul_le_mul_of_nonneg_left hdenLow (by positivity)

/-- The exponent of a quotient leaves a significand of 53 bits, or of fewer where it is the least
one. -/
theorem exponentOf_bounds {num den : Nat} (hnum : 0 < num) (hden : 0 < den) :
    let e := exponentOf num den
    minExponent ≤ e ∧ (num : ℚ) / den < 2 ^ 53 * 2 ^ e ∧
      (2 ^ 52 * 2 ^ e ≤ (num : ℚ) / den ∨ e = minExponent) := by
  intro e
  obtain ⟨hlow, hhigh⟩ := guess_bounds hnum hden
  set guess : Int := (Nat.log2 num : Int) - (Nat.log2 den : Int) - 52 with hguess
  obtain ⟨hpos, hscaled⟩ := scaled_eq num hden guess
  have hunit : (0 : ℚ) < 2 ^ guess := zpow_pos two_pos guess
  have hpos' : (0 : ℚ) < (scaled num den guess).2 := Nat.cast_pos.mpr hpos
  -- The test tells whether the significand has only 52 bits.
  have htest : (scaled num den guess).1 < (scaled num den guess).2 * twoTo 52 ↔
      (num : ℚ) / den < 2 ^ 52 * 2 ^ guess := by
    rw [hscaled, mul_lt_mul_iff_left₀ hunit, div_lt_iff₀ hpos', twoTo_eq, mul_comm]
    exact_mod_cast Iff.rfl
  have hexact : ∃ exact : Int, e = max exact minExponent ∧
      (num : ℚ) / den < 2 ^ 53 * 2 ^ exact ∧ 2 ^ 52 * 2 ^ exact ≤ (num : ℚ) / den := by
    by_cases hless : (scaled num den guess).1 < (scaled num den guess).2 * twoTo 52
    · refine ⟨guess - 1, ?_, ?_, ?_⟩
      · simp only [e, exponentOf, ← hguess, if_pos hless]
      · calc (num : ℚ) / den < 2 ^ 52 * 2 ^ guess := htest.mp hless
          _ = 2 ^ 53 * 2 ^ (guess - 1) := by rw [zpow_sub_one₀ two_ne_zero]; ring
      · calc (2 : ℚ) ^ 52 * 2 ^ (guess - 1) = 2 ^ 51 * 2 ^ guess := by
              rw [zpow_sub_one₀ two_ne_zero]; ring
          _ ≤ (num : ℚ) / den := hlow.le
    · refine ⟨guess, ?_, hhigh, not_lt.mp (mt htest.mpr hless)⟩
      simp only [e, exponentOf, ← hguess, if_neg hless]
  obtain ⟨exact, he, hbelow, habove⟩ := hexact
  rcases le_total minExponent exact with hmin | hmin
  · rw [max_eq_left hmin] at he
    rw [he]
    exact ⟨hmin, hbelow, .inl habove⟩
  · rw [max_eq_right hmin] at he
    rw [he]
    refine ⟨le_rfl, hbelow.trans_le ?_, .inr rfl⟩
    exact mul_le_mul_of_nonneg_left (zpow_le_zpow_right₀ one_le_two hmin) (by positivity)

/-! ## Rounding a quotient -/

theorem limit_lt : limit < 2 ^ 53 * 2 ^ maxExponent :=
  mul_lt_mul_of_pos_right (by norm_num) (zpow_pos two_pos _)

/-- The numbers of the format are below the limit. -/
theorem Fits.magnitude_lt {m : Nat} {e : Int} (h : Fits m e) : magnitude m e < limit := by
  have hm : (m : ℚ) ≤ 2 ^ 53 - 1 := by
    have hbits : (m : ℚ) + 1 ≤ 2 ^ 53 := by exact_mod_cast Nat.succ_le_of_lt h.bits
    linarith
  calc magnitude m e ≤ (2 ^ 53 - 1) * 2 ^ e :=
        mul_le_mul_of_nonneg_right hm (zpow_nonneg zero_le_two e)
    _ ≤ (2 ^ 53 - 1) * 2 ^ maxExponent :=
        mul_le_mul_of_nonneg_left (zpow_le_zpow_right₀ one_le_two h.high) (by norm_num)
    _ < limit := mul_lt_mul_of_pos_right (by norm_num) (zpow_pos two_pos _)

/-- All integers of 64 bits are below the limit. -/
theorem twoTo_le_limit : 2 ^ 64 ≤ limit := by
  have hone : (2 : ℚ) ^ (64 : Int) ≤ 2 ^ maxExponent :=
    zpow_le_zpow_right₀ one_le_two (by decide)
  calc (2 : ℚ) ^ 64 = 2 ^ (64 : Int) := (zpow_natCast 2 64).symm
    _ ≤ 2 ^ maxExponent := hone
    _ ≤ limit := le_mul_of_one_le_left (zpow_nonneg zero_le_two _) (by norm_num)

/-- A significand never grows by more than a carry. -/
theorem IsRounded.le_of_lt {s : ℚ} {m : Nat} (h : IsRounded s m) (hs : s < 2 ^ 53) :
    m ≤ 2 ^ 53 := by
  have hm : (m : ℚ) < 2 ^ 53 + 1 := by
    linarith [(abs_le.mp h.near).2]
  exact Nat.lt_succ_iff.mp (by exact_mod_cast hm)

/-- Below a carry there is more than half a unit to the next binade, since a tie would have gone
there. -/
theorem IsRounded.lt_of_no_carry {s : ℚ} {m : Nat} (h : IsRounded s m) (hm : m < 2 ^ 53) :
    s < 2 ^ 53 - 1 / 2 := by
  by_contra hs
  have hle : (m : ℚ) ≤ 2 ^ 53 - 1 := by
    have hsucc : (m : ℚ) + 1 ≤ 2 ^ 53 := by exact_mod_cast hm
    linarith
  have hnear := abs_le.mp h.near
  have hodd : (m : ℚ) = 2 ^ 53 - 1 := by linarith
  have htie : |(m : ℚ) - s| = 1 / 2 := by
    rw [abs_sub_comm, abs_of_nonneg (by linarith)]
    linarith
  have hm' : m = 2 ^ 53 - 1 := by
    have hsucc : ((m + 1 : Nat) : ℚ) = (2 ^ 53 : Nat) := by
      push_cast
      linarith
    have hnat := Nat.cast_injective hsucc
    omega
  have heven := h.even htie
  rw [hm'] at heven
  exact absurd heven (by decide)

/-- A magnitude that is rounded to an integer on the scale of its exponent. -/
structure OnScale (t s : ℚ) (e : Int) (m : Nat) : Prop where
  eq_scaled : t = s * 2 ^ e
  rounded : IsRounded s m
  low : minExponent ≤ e
  below : s < 2 ^ 53
  bits : 2 ^ 52 ≤ s ∨ e = minExponent

section

variable {t s : ℚ} {e : Int} {m : Nat}

theorem OnScale.of_ratio {num den : Nat} (hnum : 0 < num) (hden : 0 < den)
    (he : exponentOf num den = e) :
    OnScale (num / den) (((scaled num den e).1 : ℚ) / (scaled num den e).2) e
      (divEven (scaled num den e).1 (scaled num den e).2) := by
  obtain ⟨hmin, hbelow, hbits⟩ := exponentOf_bounds hnum hden
  rw [he] at hmin hbelow hbits
  obtain ⟨hpos, hscaled⟩ := scaled_eq num hden e
  have hunit : (0 : ℚ) < 2 ^ e := zpow_pos two_pos e
  rw [hscaled] at hbelow hbits
  exact ⟨hscaled, divEven_isRounded _ hpos, hmin, lt_of_mul_lt_mul_right hbelow hunit.le,
    hbits.imp_left fun h => le_of_mul_le_mul_right h hunit⟩

/-- A carry leaves a significand of one bit at the next exponent. -/
theorem magnitude_carry (e : Int) : magnitude (2 ^ 52) (e + 1) = magnitude (2 ^ 53) e := by
  rw [magnitude, magnitude, zpow_add_one₀ two_ne_zero]
  push_cast
  ring

/-- With all its bits a significand below a carry is at least that of one bit. -/
theorem OnScale.normal (h : OnScale t s e m) : 2 ^ 52 ≤ m ∨ e = minExponent := by
  refine h.bits.imp_left fun hs => ?_
  have hm : (2 ^ 52 : ℚ) < m + 1 := by linarith [(abs_le.mp h.rounded.near).1]
  exact Nat.lt_succ_iff.mp (by exact_mod_cast hm)

/-- Where the exponent is too great, the magnitude is not below the limit. -/
theorem OnScale.limit_le (h : OnScale t s e m)
    (he : maxExponent < e ∨ (m = 2 ^ 53 ∧ maxExponent ≤ e)) : limit ≤ t := by
  rw [h.eq_scaled]
  rcases he with he | ⟨hm, he⟩
  · have hs : 2 ^ 52 ≤ s := h.bits.resolve_right fun hmin => by
      rw [hmin] at he
      exact absurd he (by decide)
    calc limit ≤ 2 ^ 53 * 2 ^ maxExponent := limit_lt.le
      _ = 2 ^ 52 * 2 ^ (maxExponent + 1) := by rw [zpow_add_one₀ two_ne_zero]; ring
      _ ≤ s * 2 ^ e := by
          refine mul_le_mul hs (zpow_le_zpow_right₀ one_le_two he) ?_ ?_
          · exact zpow_nonneg zero_le_two _
          · exact le_trans (by positivity) hs
  · have hs : 2 ^ 53 - 1 / 2 ≤ s := by
      have hm' : (m : ℚ) = 2 ^ 53 := by rw [hm]; push_cast; rfl
      linarith [(abs_le.mp h.rounded.near).2]
    rw [limit]
    refine mul_le_mul hs (zpow_le_zpow_right₀ one_le_two he) ?_ ?_
    · exact zpow_nonneg zero_le_two _
    · exact le_trans (by norm_num) hs

/-- Otherwise it is below. -/
theorem OnScale.lt_limit (h : OnScale t s e m)
    (he : e < maxExponent ∨ (m < 2 ^ 53 ∧ e ≤ maxExponent)) : t < limit := by
  have hunit : (0 : ℚ) < 2 ^ e := zpow_pos two_pos e
  rw [h.eq_scaled]
  rcases he with he | ⟨hm, he⟩
  · calc s * 2 ^ e < 2 ^ 53 * 2 ^ e := mul_lt_mul_of_pos_right h.below hunit
      _ = 2 ^ 52 * 2 ^ (e + 1) := by rw [zpow_add_one₀ two_ne_zero]; ring
      _ ≤ 2 ^ 52 * 2 ^ maxExponent :=
          mul_le_mul_of_nonneg_left (zpow_le_zpow_right₀ one_le_two he) (by positivity)
      _ ≤ limit := mul_le_mul_of_nonneg_right (by norm_num) (zpow_nonneg zero_le_two _)
  · calc s * 2 ^ e < (2 ^ 53 - 1 / 2) * 2 ^ e :=
          mul_lt_mul_of_pos_right (h.rounded.lt_of_no_carry hm) hunit
      _ ≤ limit :=
          mul_le_mul_of_nonneg_left (zpow_le_zpow_right₀ one_le_two he) (by norm_num)

end

/-- The sign of what is not zero. -/
theorem signed_sign (neg : Bool) {t : ℚ} (ht : 0 < t) : neg = decide (signed neg t < 0) := by
  rw [Bool.eq_iff_iff, decide_eq_true_iff, signed_neg_iff neg ht]

/-- The number of a significand below a carry, if its exponent is not too great. -/
def packed (neg : Bool) (m : Nat) (e : Int) : Binary64 :=
  if maxExponent < e then .infinite neg
  else if m = 0 then .finite neg 0 0
  else .finite neg m e

/-- The exponent stays closed here: it is a large term, and nothing depends on what it is. -/
theorem ofRatio_eq (neg : Bool) {num den : Nat} (hnum : 0 < num) (hden : 0 < den) {e : Int}
    (he : exponentOf num den = e) {m : Nat}
    (hm : divEven (scaled num den e).1 (scaled num den e).2 = m) :
    ofRatio neg num den =
      if m = twoTo 53 then packed neg (twoTo 52) (e + 1) else packed neg m e := by
  rw [ofRatio, if_neg (by simp [hnum.ne', hden.ne']), he]
  simp only [hm]
  by_cases hcarry : m = twoTo 53
  · simp only [if_pos hcarry, packed]
  · simp only [if_neg hcarry, packed]

/-- Another way to write a rounded magnitude, with a significand below a carry. -/
structure Rewrites (m : Nat) (e : Int) (m' : Nat) (e' : Int) : Prop where
  bits : m' < 2 ^ 53
  low : minExponent ≤ e'
  same : magnitude m' e' = magnitude m e
  normal : 2 ^ 52 ≤ m' ∨ e' = minExponent
  even : Even m → Even m'

theorem OnScale.isNearest {t s : ℚ} {e : Int} {m : Nat} (h : OnScale t s e m) {m' : Nat}
    {e' : Int} (hfits : Fits m' e') (hnormal : m' = 0 ∨ 2 ^ 52 ≤ m' ∨ e' = minExponent)
    (hsame : magnitude m' e' = magnitude m e) (heven : Even m → Even m') : IsNearest t m' e' where
  fits := hfits
  normal := hnormal
  nearest hother := by
    rw [hsame]
    exact (h.rounded.nearest h.eq_scaled h.bits hother).1
  even hother := by
    rw [hsame]
    exact fun hnear hne => heven ((h.rounded.nearest h.eq_scaled h.bits hother).2 hnear hne)

/-- The number that is written so is the one that is rounded to, if the limit decides whether the
exponent is too great. -/
theorem OnScale.roundsTo_packed {t s : ℚ} {e : Int} {m : Nat} (h : OnScale t s e m) (neg : Bool)
    (ht : 0 < t) {m' : Nat} {e' : Int} (hm' : Rewrites m e m' e')
    (hlimit : maxExponent < e' → limit ≤ t) (hbelow : e' ≤ maxExponent → t < limit) :
    RoundsTo (signed neg t) (packed neg m' e') := by
  have habs : |signed neg t| = t := by rw [abs_signed, abs_of_pos ht]
  rw [packed]
  split
  · next hhigh => exact ⟨by rw [habs]; exact hlimit hhigh, signed_sign neg ht⟩
  · next hhigh =>
    have hfits : Fits m' e' := ⟨hm'.bits, hm'.low, not_lt.mp hhigh⟩
    have hlt : t < limit := hbelow (not_lt.mp hhigh)
    split
    · next hzero =>
      refine ⟨by rwa [habs], ?_, fun _ => signed_sign neg ht⟩
      rw [habs]
      refine h.isNearest fits_zero (.inl rfl) ?_ fun _ => by decide
      rw [← hm'.same, hzero, magnitude, magnitude, Nat.cast_zero, zero_mul, zero_mul]
    · refine ⟨by rwa [habs], ?_, fun _ => signed_sign neg ht⟩
      rw [habs]
      exact h.isNearest hfits (.inr hm'.normal) hm'.same hm'.even

/-- A quotient is rounded to the nearest number of the format. -/
theorem roundsTo_ofRatio (neg : Bool) {num den : Nat} (hnum : 0 < num) (hden : 0 < den) :
    RoundsTo (signed neg (num / den)) (ofRatio neg num den) := by
  have hpos : (0 : ℚ) < num / den := div_pos (Nat.cast_pos.mpr hnum) (Nat.cast_pos.mpr hden)
  obtain ⟨e, he⟩ : ∃ e, exponentOf num den = e := ⟨_, rfl⟩
  obtain ⟨m, hm⟩ : ∃ m, divEven (scaled num den e).1 (scaled num den e).2 = m := ⟨_, rfl⟩
  have hscale := OnScale.of_ratio hnum hden he
  rw [hm] at hscale
  have hlow := hscale.low
  rw [ofRatio_eq neg hnum hden he hm, twoTo_eq, twoTo_eq]
  by_cases hcarry : m = 2 ^ 53
  · rw [if_pos hcarry]
    refine hscale.roundsTo_packed neg hpos ⟨by norm_num, by omega, ?_, .inl le_rfl, fun _ => ?_⟩
      (fun hhigh => hscale.limit_le (.inr ⟨hcarry, by omega⟩))
      fun hhigh => hscale.lt_limit (.inl (by omega))
    · rw [hcarry]
      exact magnitude_carry e
    · exact Nat.even_pow.mpr ⟨even_two, by norm_num⟩
  · rw [if_neg hcarry]
    have hbits : m < 2 ^ 53 := lt_of_le_of_ne (hscale.rounded.le_of_lt hscale.below) hcarry
    exact hscale.roundsTo_packed neg hpos ⟨hbits, hlow, rfl, hscale.normal, id⟩
      (fun hhigh => hscale.limit_le (.inl hhigh)) fun hhigh => hscale.lt_limit (.inr ⟨hbits, hhigh⟩)

/-! ## Rounding digits and a power of ten -/

/-- A number with so many digits lies between two powers of ten. -/
theorem digits_bounds {n : Nat} (hn : 0 < n) :
    (10 : ℚ) ^ (((Nat.toDigits 10 n).length : Int) - 1) ≤ n ∧
      (n : ℚ) < 10 ^ ((Nat.toDigits 10 n).length : Int) := by
  have hlen : 0 < (Nat.toDigits 10 n).length := Nat.length_toDigits_pos
  generalize hk : (Nat.toDigits 10 n).length = k at hlen ⊢
  have hhigh : n < 10 ^ k := (Nat.length_toDigits_le_iff (by norm_num) hlen).mp hk.le
  have hlow : 10 ^ (k - 1) ≤ n := by
    rcases Nat.eq_zero_or_pos (k - 1) with hone | hmore
    · rw [hone, pow_zero]
      exact hn
    · have hnot : ¬n < 10 ^ (k - 1) := fun hless =>
        absurd ((Nat.length_toDigits_le_iff (by norm_num) hmore).mpr hless) (by omega)
      exact not_lt.mp hnot
  constructor
  · have hpred : ((k : Int) - 1) = ((k - 1 : Nat) : Int) := by omega
    rw [hpred, zpow_natCast]
    exact_mod_cast hlow
  · rw [zpow_natCast]
    exact_mod_cast hhigh

/-- The limit has 309 digits. -/
theorem limit_le_tenTo : limit ≤ 10 ^ (310 : Int) := by
  have hexponent : (53 : Int) + maxExponent = (1024 : Nat) := rfl
  have hpart : (2 : ℚ) ^ 205 ≤ 10 ^ 62 := by norm_num
  calc limit ≤ 2 ^ 53 * 2 ^ maxExponent := limit_lt.le
    _ = 2 ^ ((53 : Int) + maxExponent) := by rw [zpow_add₀ two_ne_zero]; norm_cast
    _ = 2 ^ 1024 := by rw [hexponent, zpow_natCast]
    _ ≤ 2 ^ (205 * 5) := pow_le_pow_right₀ one_le_two (by norm_num)
    _ = (2 ^ 205) ^ 5 := pow_mul _ _ _
    _ ≤ (10 ^ 62) ^ 5 := pow_le_pow_left₀ (by positivity) hpart 5
    _ = 10 ^ (62 * 5) := (pow_mul _ _ _).symm
    _ = 10 ^ (310 : Int) := (zpow_natCast _ _).symm

/-- What is below this power of ten is less than half of the least number of the format. -/
theorem tenTo_le_half : (10 : ℚ) ^ (-330 : Int) ≤ 1 / 2 * 2 ^ minExponent := by
  have hpart : (2 : ℚ) ^ 219 ≤ 10 ^ 66 := by norm_num
  have hpowers : (2 : ℚ) ^ 1075 ≤ 10 ^ 330 := by
    calc (2 : ℚ) ^ 1075 ≤ 2 ^ (219 * 5) := pow_le_pow_right₀ one_le_two (by norm_num)
      _ = (2 ^ 219) ^ 5 := pow_mul _ _ _
      _ ≤ (10 ^ 66) ^ 5 := pow_le_pow_left₀ (by positivity) hpart 5
      _ = 10 ^ (66 * 5) := (pow_mul _ _ _).symm
  have hexponent : -1 + minExponent = -((1075 : Nat) : Int) := rfl
  calc (10 : ℚ) ^ (-330 : Int) = (10 ^ 330)⁻¹ := zpow_neg 10 330
    _ ≤ (2 ^ 1075)⁻¹ := inv_anti₀ (by positivity) hpowers
    _ = 2 ^ (-1 + minExponent) := by rw [hexponent, zpow_neg, zpow_natCast]
    _ = 1 / 2 * 2 ^ minExponent := by rw [zpow_add₀ two_ne_zero, zpow_neg_one, one_div]

theorem roundsTo_zero (neg : Bool) : RoundsTo 0 (.finite neg 0 0) := by
  have hlimit : 0 < limit := mul_pos (by norm_num) (zpow_pos two_pos _)
  have hzero : magnitude 0 0 = 0 := by rw [magnitude, Nat.cast_zero, zero_mul]
  refine ⟨by rwa [abs_zero], ⟨fits_zero, .inl rfl, fun _ => ?_, fun _ _ _ => by decide⟩,
    fun h => absurd rfl h⟩
  rw [hzero, abs_zero, sub_zero, abs_zero]
  exact abs_nonneg _

/-- What is less than half of the least number is rounded to zero. -/
theorem roundsTo_tiny (neg : Bool) {t : ℚ} (ht : 0 < t) (hhalf : t < 1 / 2 * 2 ^ minExponent) :
    RoundsTo (signed neg t) (.finite neg 0 0) := by
  have hunit : (0 : ℚ) < 2 ^ minExponent := zpow_pos two_pos _
  have hs : t / 2 ^ minExponent < 1 / 2 := (div_lt_iff₀ hunit).mpr hhalf
  have hdistance : |((0 : Nat) : ℚ) - t / 2 ^ minExponent| = t / 2 ^ minExponent := by
    rw [Nat.cast_zero, zero_sub, abs_neg, abs_of_pos (div_pos ht hunit)]
  have hscale : OnScale t (t / 2 ^ minExponent) minExponent 0 := by
    refine ⟨(div_mul_cancel₀ _ hunit.ne').symm, ⟨?_, fun _ => by decide⟩, le_rfl, ?_, .inr rfl⟩
    · rw [hdistance]
      exact hs.le
    · exact hs.trans (by norm_num)
  exact hscale.roundsTo_packed neg ht ⟨by norm_num, le_rfl, rfl, .inr rfl, id⟩
    (fun hhigh => absurd hhigh (by decide)) fun _ => hscale.lt_limit (.inl (by decide))

/-- What is not below the limit is rounded to infinity. -/
theorem roundsTo_huge (neg : Bool) {t : ℚ} (ht : 0 < t) (hlimit : limit ≤ t) :
    RoundsTo (signed neg t) (.infinite neg) := by
  refine ⟨?_, signed_sign neg ht⟩
  rw [abs_signed, abs_of_pos ht]
  exact hlimit

/-- Digits with a power of ten are rounded to the nearest number of the format, also where the
number of digits alone decides. -/
theorem roundsTo_ofDecimal (neg : Bool) (digits : Nat) (e : Int) :
    RoundsTo (signed neg (digits * 10 ^ e)) (ofDecimal neg digits e) := by
  rw [ofDecimal]
  by_cases hdigits : digits = 0
  · rw [if_pos hdigits, hdigits, Nat.cast_zero, zero_mul]
    have hzero : signed neg 0 = 0 := by cases neg <;> simp [signed]
    rw [hzero]
    exact roundsTo_zero neg
  rw [if_neg hdigits]
  have hpos : 0 < digits := Nat.pos_of_ne_zero hdigits
  have hunit : (0 : ℚ) < 10 ^ e := zpow_pos (by norm_num) e
  have ht : (0 : ℚ) < digits * 10 ^ e := mul_pos (Nat.cast_pos.mpr hpos) hunit
  obtain ⟨hlow, hhigh⟩ := digits_bounds hpos
  simp only []
  generalize (Nat.toDigits 10 digits).length = k at hlow hhigh ⊢
  have hten : (1 : ℚ) ≤ 10 := by norm_num
  split
  · next hplaces =>
    refine roundsTo_huge neg ht ?_
    calc limit ≤ 10 ^ (310 : Int) := limit_le_tenTo
      _ ≤ 10 ^ ((k : Int) - 1 + e) := zpow_le_zpow_right₀ hten (by omega)
      _ = 10 ^ ((k : Int) - 1) * 10 ^ e := zpow_add₀ (by norm_num) _ _
      _ ≤ digits * 10 ^ e := mul_le_mul_of_nonneg_right hlow hunit.le
  split
  · next hplaces =>
    refine roundsTo_tiny neg ht ?_
    calc (digits : ℚ) * 10 ^ e < 10 ^ (k : Int) * 10 ^ e := mul_lt_mul_of_pos_right hhigh hunit
      _ = 10 ^ ((k : Int) + e) := (zpow_add₀ (by norm_num) _ _).symm
      _ ≤ 10 ^ (-330 : Int) := zpow_le_zpow_right₀ hten (by omega)
      _ ≤ 1 / 2 * 2 ^ minExponent := tenTo_le_half
  split
  · next he =>
    have hpow : (10 : ℚ) ^ e = (tenTo e.toNat : Nat) := by
      rw [tenTo_eq, ← Int.toNat_of_nonneg he, zpow_natCast]
      push_cast
      rfl
    have hratio : (digits : ℚ) * 10 ^ e = (digits * tenTo e.toNat : Nat) / (1 : Nat) := by
      rw [hpow, Nat.cast_one, div_one, Nat.cast_mul]
    rw [hratio]
    exact roundsTo_ofRatio neg (Nat.mul_pos hpos (tenTo_pos _)) one_pos
  · next he =>
    have hpow : (10 : ℚ) ^ e = ((tenTo (-e).toNat : Nat) : ℚ)⁻¹ := by
      rw [tenTo_eq, Nat.cast_pow, ← zpow_natCast, ← zpow_neg, Int.toNat_of_nonneg (by omega),
        neg_neg]
      rfl
    rw [hpow, ← div_eq_mul_inv]
    exact roundsTo_ofRatio neg hpos (tenTo_pos _)

/-! ## Integers of the format -/

theorem magnitude_of_nonneg (m : Nat) {e : Int} (he : 0 ≤ e) :
    magnitude m e = (m * twoTo e.toNat : Nat) := by
  have hpow : (2 : ℚ) ^ e = 2 ^ e.toNat := by
    rw [← zpow_natCast, Int.toNat_of_nonneg he]
  rw [magnitude, hpow, twoTo_eq]
  push_cast
  rfl

theorem magnitude_of_neg (m : Nat) {e : Int} (he : e < 0) :
    magnitude m e = m / (twoTo (-e).toNat : Nat) := by
  have hpow : (2 : ℚ) ^ e = (2 ^ (-e).toNat)⁻¹ := by
    rw [← zpow_natCast, Int.toNat_of_nonneg (by omega), ← zpow_neg, neg_neg]
  rw [magnitude, hpow, twoTo_eq, Nat.cast_pow, Nat.cast_ofNat, div_eq_mul_inv]

/-- The test for integers finds them, and the integer part is then all of the magnitude. -/
theorem isInteger_iff (m : Nat) (e : Int) :
    (isInteger m e = true ↔ ∃ k : Int, magnitude m e = k) ∧
      (isInteger m e = true → magnitude m e = integerPart m e) := by
  rcases lt_or_ge e 0 with he | he
  · have hden : twoTo (-e).toNat ≠ 0 := (twoTo_pos _).ne'
    have hden' : ((twoTo (-e).toNat : Nat) : ℚ) ≠ 0 := Nat.cast_ne_zero.mpr hden
    have htest : isInteger m e = true ↔ twoTo (-e).toNat ∣ m := by
      rw [isInteger, decide_eq_false (by omega), Bool.false_or, beq_iff_eq, Nat.dvd_iff_mod_eq_zero]
    have hpart : isInteger m e = true → magnitude m e = integerPart m e := by
      intro h
      rw [magnitude_of_neg m he, integerPart, if_neg (by omega), Nat.cast_div (htest.mp h) hden']
    refine ⟨⟨fun h => ⟨integerPart m e, (hpart h).trans (Int.cast_natCast _).symm⟩, ?_⟩, hpart⟩
    rintro ⟨k, hk⟩
    rw [magnitude_of_neg m he, div_eq_iff hden'] at hk
    rw [htest, ← Int.natCast_dvd_natCast]
    exact ⟨k, by rw [mul_comm]; exact_mod_cast hk⟩
  · have htest : isInteger m e = true := by
      rw [isInteger, decide_eq_true he, Bool.true_or]
    have hpart : magnitude m e = integerPart m e := by
      rw [magnitude_of_nonneg m he, integerPart, if_pos he]
    exact ⟨iff_of_true htest ⟨integerPart m e, hpart.trans (Int.cast_natCast _).symm⟩,
      fun _ => hpart⟩

/-- The integer that a number is taken for is its value, and every integer is taken for itself. -/
theorem toInt?_eq_some_iff (x : Binary64) (n : Int) :
    x.toInt? = some n ↔ x.value? = some (n : ℚ) := by
  cases x with
  | infinite neg => exact ⟨nofun, nofun⟩
  | nan => exact ⟨nofun, nofun⟩
  | finite neg m e =>
    obtain ⟨htest, hpart⟩ := isInteger_iff m e
    rw [toInt?, value?, Option.some.injEq]
    by_cases h : isInteger m e = true
    · rw [if_pos h, hpart h, Option.some.injEq]
      cases neg
      · rw [signed, if_neg Bool.false_ne_true, if_neg Bool.false_ne_true]
        exact_mod_cast Iff.rfl
      · rw [signed, if_pos rfl, if_pos rfl]
        exact_mod_cast Iff.rfl
    · rw [if_neg h]
      refine iff_of_false nofun fun hvalue => h (htest.mpr ?_)
      cases neg
      · exact ⟨n, hvalue⟩
      · refine ⟨-n, ?_⟩
        rw [Int.cast_neg, ← hvalue, signed, if_pos rfl, neg_neg]

/-- A magnitude of the format is its own nearest one. -/
theorem IsNearest.eq_of_fits {t : ℚ} {m : Nat} {e : Int} (h : IsNearest t m e) {m' : Nat} {e' : Int}
    (hfits : Fits m' e') (hsame : magnitude m' e' = t) : magnitude m e = t := by
  have hnear := h.nearest hfits
  rw [hsame, sub_self, abs_zero] at hnear
  exact sub_eq_zero.mp (abs_nonpos_iff.mp hnear)

/-- Every integer of at most 53 bits, and the next one, is a number of the format. -/
theorem exists_fits_of_le {k : Nat} (hk : k ≤ 2 ^ 53) : ∃ m e, Fits m e ∧ magnitude m e = k := by
  rcases hk.lt_or_eq with hless | htop
  · exact ⟨k, 0, ⟨hless, by decide, by decide⟩, by rw [magnitude, zpow_zero, mul_one]⟩
  · refine ⟨2 ^ 52, 1, ⟨by norm_num, by decide, by decide⟩, ?_⟩
    rw [magnitude, htop, zpow_one]
    norm_num

/-- What is nearest to an integer is an integer: up to 53 bits the integer itself, and above there
are no fractions in the format. -/
theorem IsNearest.isInteger {k m : Nat} {e : Int} (h : IsNearest k m e) :
    ∃ n : Int, magnitude m e = n := by
  by_cases hk : k ≤ 2 ^ 53
  · obtain ⟨m', e', hfits, hsame⟩ := exists_fits_of_le hk
    exact ⟨k, (h.eq_of_fits hfits hsame).trans (Int.cast_natCast k).symm⟩
  rcases lt_or_ge e 0 with he | he
  · -- A fraction is below the greatest integer of 53 bits, which is nearer.
    exfalso
    obtain ⟨m', e', hfits, hsame⟩ := exists_fits_of_le (Nat.le_refl (2 ^ 53))
    have hbelow := magnitude_lt_of_lt h.fits.bits he
    rw [zpow_zero, mul_one] at hbelow
    have hk' : ((2 ^ 53 : Nat) : ℚ) < k := Nat.cast_lt.mpr (not_le.mp hk)
    have hnear := h.nearest hfits
    push_cast at hk' hsame
    rw [hsame, abs_sub_comm, abs_sub_comm _ (k : ℚ), abs_of_pos (by linarith),
      abs_of_pos (by linarith)] at hnear
    linarith
  · exact ⟨m * twoTo e.toNat, by rw [magnitude_of_nonneg m he]; push_cast; rfl⟩

/-- A magnitude with the sign of a number. -/
theorem signed_abs {neg : Bool} {q : ℚ} (hneg : q ≠ 0 → neg = decide (q < 0)) :
    signed neg |q| = q := by
  by_cases hzero : q = 0
  · rw [hzero, abs_zero]
    cases neg <;> simp [signed]
  rw [hneg hzero]
  rcases lt_or_ge q 0 with hq | hq
  · rw [decide_eq_true hq, abs_of_neg hq, signed, if_pos rfl, neg_neg]
  · rw [decide_eq_false (not_lt.mpr hq), abs_of_nonneg hq, signed, if_neg Bool.false_ne_true]

/-- A rational number that is a number of the format. -/
def IsOfFormat (q : ℚ) : Prop := ∃ m e, Fits m e ∧ magnitude m e = |q|

/-- Integers of at most 53 bits, and the next one, are numbers of the format. -/
theorem isOfFormat_of_le {n : Int} (hn : |n| ≤ 2 ^ 53) : IsOfFormat n := by
  have hle : n.natAbs ≤ 2 ^ 53 := by
    rw [Int.abs_eq_natAbs] at hn
    exact_mod_cast hn
  obtain ⟨m, e, hfits, hsame⟩ := exists_fits_of_le hle
  refine ⟨m, e, hfits, ?_⟩
  rw [hsame, ← Int.cast_abs, Int.abs_eq_natAbs, Int.cast_natCast]

/-- Numbers of the format are rounded to themselves. -/
theorem RoundsTo.value?_of_isOfFormat {q : ℚ} {x : Binary64} (h : RoundsTo q x)
    (hq : IsOfFormat q) : x.value? = some q := by
  obtain ⟨m', e', hfits, hsame⟩ := hq
  cases x with
  | infinite neg =>
    have hbelow := hfits.magnitude_lt
    rw [hsame] at hbelow
    exact absurd h.1 (not_le.mpr hbelow)
  | nan => exact absurd h id
  | finite neg m e => rw [value?, h.2.1.eq_of_fits hfits hsame, signed_abs h.2.2]

/-- So integers of at most 53 bits, and the next one, are rounded to themselves. -/
theorem RoundsTo.value?_of_le {n : Int} {x : Binary64} (h : RoundsTo n x) (hn : |n| ≤ 2 ^ 53) :
    x.value? = some (n : ℚ) :=
  h.value?_of_isOfFormat (isOfFormat_of_le hn)

/-- So an integer below the limit is rounded to an integer. -/
theorem RoundsTo.isInteger {n : Int} {x : Binary64} (h : RoundsTo n x) (hn : |(n : ℚ)| < limit) :
    ∃ n' : Int, x.value? = some (n' : ℚ) := by
  cases x with
  | infinite neg => exact absurd h.1 (not_le.mpr hn)
  | nan => exact absurd h id
  | finite neg m e =>
    have hnearest := h.2.1
    rw [← Int.cast_abs, Int.abs_eq_natAbs, Int.cast_natCast] at hnearest
    obtain ⟨n', hn'⟩ := hnearest.isInteger
    rw [value?, hn']
    cases neg
    · exact ⟨n', rfl⟩
    · exact ⟨-n', by rw [signed, if_pos rfl, Int.cast_neg]⟩

/-! ## Comparing -/

/-- A finite number on a scale with units no greater than its own. -/
theorem value?_eq_of_le (neg : Bool) (m : Nat) {e low : Int} (he : low ≤ e) :
    value? (.finite neg m e) =
      some (((if neg then -((m * twoTo (e - low).toNat : Nat) : Int)
        else (m * twoTo (e - low).toNat : Nat) : Int) : ℚ) * 2 ^ low) := by
  rw [value?, magnitude_eq_of_le m he]
  cases neg
  · simp [signed]
  · simp [signed]

/-- The order of finite numbers is that of their values. -/
theorem lt_iff {x y : Binary64} {a b : ℚ} (hx : x.value? = some a) (hy : y.value? = some b) :
    x.lt y = true ↔ a < b := by
  rcases x with ⟨s, m, e⟩ | s | _
  · rcases y with ⟨t, n, f⟩ | t | _
    · -- Both are integers on the scale of the smaller exponent.
      rw [value?_eq_of_le s m (min_le_left e f), Option.some.injEq] at hx
      rw [value?_eq_of_le t n (min_le_right e f), Option.some.injEq] at hy
      rw [← hx, ← hy, mul_lt_mul_iff_of_pos_right (zpow_pos two_pos _), Int.cast_lt, lt,
        decide_eq_true_iff]
      push_cast
      rfl
    · cases hy
    · cases hy
  · cases hx
  · cases hx

/-- Finite numbers are the same where their values are. -/
theorem same_iff {x y : Binary64} {a b : ℚ} (hx : x.value? = some a) (hy : y.value? = some b) :
    x.same y = true ↔ a = b := by
  have hsame : x.same y = (!x.lt y && !y.lt x) := by
    rcases x with _ | _ | _
    · rcases y with _ | _ | _
      · rfl
      · rfl
      · cases hy
    · cases hx
    · cases hx
  rw [hsame, Bool.and_eq_true, Bool.not_eq_true', Bool.not_eq_true', ← Bool.not_eq_true,
    ← Bool.not_eq_true, lt_iff hx hy, lt_iff hy hx, not_lt, not_lt]
  exact ⟨fun h => le_antisymm h.2 h.1, fun h => ⟨h.ge, h.le⟩⟩

end Binary64

end ClusterFixture.Number
