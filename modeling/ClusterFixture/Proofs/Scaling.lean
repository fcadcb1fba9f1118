/-
Products and quotients of the format, and the decimals that name its numbers.

A product or a quotient is the exact one, rounded once. So digits that are scaled by a power of ten
in two rounded steps stay below the limit of the format, as long as their exact value stays a little
further below it. The shortest decimal of a number lies within half a unit of it, and so it is far
enough from the limit unless the number is one of the five greatest; of these each is checked.
-/

import ClusterFixture.Json.Read
import ClusterFixture.Number.Shortest
import ClusterFixture.Proofs.Rounding
import Mathlib.Data.Rat.Floor

set_option autoImplicit false

namespace ClusterFixture.Number.Binary64

/-! ## Finite numbers -/

/-- Whether a number is finite and of the format. -/
def IsFinite : Binary64 → Prop
  | .finite _ m e => Fits m e
  | _ => False

/-- What is rounded from below the limit is finite. -/
theorem RoundsTo.isFinite {q : ℚ} {x : Binary64} (h : RoundsTo q x) (hq : |q| < limit) :
    IsFinite x := by
  cases x with
  | finite neg m e => exact h.2.1.fits
  | infinite neg => exact absurd h.1 (not_le.mpr hq)
  | nan => exact h

/-- What is rounded and does not leave the format is finite. -/
theorem RoundsTo.isFinite_of_ne {q : ℚ} {x : Binary64} (h : RoundsTo q x)
    (hne : ∀ neg, x ≠ .infinite neg) : IsFinite x := by
  cases x with
  | finite neg m e => exact h.2.1.fits
  | infinite neg => exact absurd rfl (hne neg)
  | nan => exact h

theorem magnitude_nonneg (m : Nat) (e : Int) : 0 ≤ magnitude m e :=
  mul_nonneg (Nat.cast_nonneg m) (zpow_nonneg zero_le_two e)

/-! ## Rounded magnitudes -/

section

variable {t b : ℚ} {m m' : Nat} {e e' : Int}

/-- Rounding does not go below a number of the format that is not above. -/
theorem IsNearest.le_magnitude (h : IsNearest t m e) (hfits : Fits m' e')
    (hle : magnitude m' e' ≤ t) : magnitude m' e' ≤ magnitude m e := by
  have hnear := h.nearest hfits
  rw [abs_of_nonpos (sub_nonpos.mpr hle)] at hnear
  linarith [(abs_le.mp hnear).1]

/-- Nor does it go above one that is not below. -/
theorem IsNearest.magnitude_le (h : IsNearest t m e) (hfits : Fits m' e')
    (hle : t ≤ magnitude m' e') : magnitude m e ≤ magnitude m' e' := by
  have hnear := h.nearest hfits
  rw [abs_of_nonneg (sub_nonneg.mpr hle)] at hnear
  linarith [(abs_le.mp hnear).2]

end

/-- Below a natural number within the limit there is a number of the format that is less than one
part in 2^52 away. -/
theorem exists_fits_near {n : Nat} (hn : 0 < n) (hlimit : (n : ℚ) < limit) :
    ∃ m e, Fits m e ∧ |magnitude m e - n| ≤ n * (1 / 2 ^ 52) := by
  obtain ⟨hmin, hbelow, hbits⟩ := exponentOf_bounds hn Nat.one_pos
  generalize exponentOf n 1 = e at hmin hbelow hbits
  rw [Nat.cast_one, div_one] at hbelow hbits
  have hunit : (0 : ℚ) < 2 ^ e := zpow_pos two_pos e
  have hone : (1 : ℚ) ≤ n := by exact_mod_cast hn
  have hnormal : 2 ^ 52 * 2 ^ e ≤ (n : ℚ) := by
    refine hbits.resolve_right fun he => ?_
    have hsmall : (2 : ℚ) ^ 53 * 2 ^ minExponent ≤ 1 := by
      have hpow : (2 : ℚ) ^ minExponent ≤ 2 ^ (-53 : Int) :=
        zpow_le_zpow_right₀ one_le_two (by decide)
      calc (2 : ℚ) ^ 53 * 2 ^ minExponent ≤ 2 ^ 53 * 2 ^ (-53 : Int) :=
            mul_le_mul_of_nonneg_left hpow (by positivity)
        _ = 1 := by norm_num
    rw [he] at hbelow
    linarith
  have hhigh : e ≤ maxExponent := by
    by_contra habove
    have hpow : (2 : ℚ) ^ (maxExponent + 1) ≤ 2 ^ e :=
      zpow_le_zpow_right₀ one_le_two (by omega)
    have htop : (2 : ℚ) ^ 53 * 2 ^ maxExponent = 2 ^ 52 * 2 ^ (maxExponent + 1) := by
      rw [zpow_add_one₀ two_ne_zero]
      ring
    linarith [limit_lt]
  have hfloor : (⌊(n : ℚ) / 2 ^ e⌋₊ : ℚ) ≤ n / 2 ^ e := Nat.floor_le (by positivity)
  have hnext : (n : ℚ) / 2 ^ e < ⌊(n : ℚ) / 2 ^ e⌋₊ + 1 := Nat.lt_floor_add_one _
  refine ⟨⌊(n : ℚ) / 2 ^ e⌋₊, e, ⟨?_, hmin, hhigh⟩, ?_⟩
  · have hquotient : (n : ℚ) / 2 ^ e < 2 ^ 53 := (div_lt_iff₀ hunit).mpr hbelow
    exact_mod_cast hfloor.trans_lt hquotient
  · rw [le_div_iff₀ hunit] at hfloor
    rw [div_lt_iff₀ hunit] at hnext
    rw [magnitude, abs_of_nonpos (by linarith)]
    linarith

/-- So rounding adds less than one part in 2^52 to it. -/
theorem IsNearest.magnitude_le_mul {n : Nat} (hn : 0 < n) (hlimit : (n : ℚ) < limit) {m : Nat}
    {e : Int} (h : IsNearest n m e) : magnitude m e ≤ n * (1 + 1 / 2 ^ 52) := by
  obtain ⟨m', e', hfits, hnear⟩ := exists_fits_near hn hlimit
  have hle := (h.nearest hfits).trans hnear
  linarith [(abs_le.mp hle).2]

/-! ## Products and quotients -/

/-- Numerator and denominator make the magnitude. -/
theorem ratio_eq (m : Nat) (e : Int) :
    0 < (ratio m e).2 ∧ ((ratio m e).1 : ℚ) / (ratio m e).2 = magnitude m e := by
  rcases lt_or_ge e 0 with he | he
  · rw [ratio, if_neg (not_le.mpr he), magnitude_of_neg m he]
    exact ⟨twoTo_pos _, rfl⟩
  · rw [ratio, if_pos he, magnitude_of_nonneg m he]
    exact ⟨Nat.one_pos, by rw [Nat.cast_one, div_one]⟩

/-- A quotient is rounded, zero included. -/
theorem roundsTo_quotient (neg : Bool) (num : Nat) {den : Nat} (hden : 0 < den) :
    RoundsTo (signed neg (num / den)) (ofRatio neg num den) := by
  rcases Nat.eq_zero_or_pos num with rfl | hnum
  · have hzero : signed neg ((0 : Nat) / den) = 0 := by cases neg <;> simp [signed]
    rw [hzero]
    exact roundsTo_zero neg
  · exact roundsTo_ofRatio neg hnum hden

theorem roundsTo_mul (s t : Bool) (m n : Nat) (e f : Int) :
    RoundsTo (signed (s != t) (magnitude m e * magnitude n f))
      ((finite s m e).mul (finite t n f)) := by
  obtain ⟨hden, hratio⟩ := ratio_eq (m * n) (e + f)
  have hvalue : magnitude m e * magnitude n f = magnitude (m * n) (e + f) := by
    rw [magnitude, magnitude, magnitude, zpow_add₀ two_ne_zero]
    push_cast
    ring
  rw [hvalue, ← hratio]
  exact roundsTo_quotient _ _ hden

theorem roundsTo_div (s t : Bool) (m : Nat) {n : Nat} (hn : 0 < n) (e f : Int) :
    RoundsTo (signed (s != t) (magnitude m e / magnitude n f))
      ((finite s m e).div (finite t n f)) := by
  obtain ⟨hden, hratio⟩ := ratio_eq m (e - f)
  have hvalue : magnitude m e / magnitude n f
      = ((ratio m (e - f)).1 : ℚ) / ((ratio m (e - f)).2 * n : Nat) := by
    rw [Nat.cast_mul, ← div_div, hratio, magnitude, magnitude, magnitude, zpow_sub₀ two_ne_zero]
    field_simp
  rw [hvalue, div, if_neg hn.ne']
  exact roundsTo_quotient _ _ (Nat.mul_pos hden hn)

/-! ## Scaling by a power of ten -/

theorem maxExponent_pow : (2 : ℚ) ^ maxExponent = (twoTo 971 : Nat) := by
  rw [twoTo_eq, Nat.cast_pow]
  exact zpow_natCast 2 971

theorem tenTo_le_tenTo {m n : Nat} (h : m ≤ n) : tenTo m ≤ tenTo n :=
  Nat.pow_le_pow_right (by norm_num) h

/-- The powers of ten below the limit, and the least one above it. -/
theorem tenTo_lt_limit {n : Nat} (hn : n ≤ 308) : (tenTo n : ℚ) < limit := by
  have hpow : tenTo 308 < 9007199254740991 * twoTo 971 := by decide +kernel
  have hle : tenTo n ≤ tenTo 308 := tenTo_le_tenTo hn
  calc (tenTo n : ℚ) < (9007199254740991 * twoTo 971 : Nat) := Nat.cast_lt.mpr (hle.trans_lt hpow)
    _ = 9007199254740991 * (twoTo 971 : Nat) := by rw [Nat.cast_mul]; rfl
    _ ≤ limit := by
      rw [limit, maxExponent_pow]
      exact mul_le_mul_of_nonneg_right (by norm_num) (Nat.cast_nonneg _)

theorem limit_lt_tenTo {n : Nat} (hn : 308 < n) : limit < tenTo n := by
  have hpow : 9007199254740992 * twoTo 971 ≤ tenTo 309 := by decide +kernel
  have hle : tenTo 309 ≤ tenTo n := tenTo_le_tenTo hn
  calc limit < 2 ^ 53 * 2 ^ maxExponent := limit_lt
    _ = (9007199254740992 * twoTo 971 : Nat) := by
      rw [maxExponent_pow, Nat.cast_mul,
        show ((9007199254740992 : Nat) : ℚ) = 2 ^ 53 by norm_num]
    _ ≤ tenTo n := Nat.cast_le.mpr (hpow.trans hle)

/-- A power of ten up to the greatest one is rounded to a number that is not below one. -/
theorem exists_powerOfTen {n : Nat} (hn : n ≤ 308) :
    ∃ m e, Json.powerOfTen n = .finite false m e ∧ 0 < m ∧ 1 ≤ magnitude m e ∧
      magnitude m e ≤ tenTo n * (1 + 1 / 2 ^ 52) := by
  have hrounds := roundsTo_ofDecimal false 1 n
  have hvalue : signed false ((1 : Nat) * 10 ^ (n : Int)) = (tenTo n : ℚ) := by
    rw [signed, if_neg Bool.false_ne_true, Nat.cast_one, one_mul, zpow_natCast, tenTo_eq]
    push_cast
    rfl
  rw [hvalue, ← Json.powerOfTen] at hrounds
  have hpos : (0 : ℚ) < tenTo n := Nat.cast_pos.mpr (tenTo_pos n)
  cases hpower : Json.powerOfTen n with
  | infinite neg =>
    rw [hpower] at hrounds
    exact absurd hrounds.1 (not_le.mpr (by rw [abs_of_pos hpos]; exact tenTo_lt_limit hn))
  | nan => rw [hpower] at hrounds; exact hrounds.elim
  | finite neg m e =>
    rw [hpower] at hrounds
    obtain ⟨-, hnearest, hneg⟩ := hrounds
    rw [abs_of_pos hpos] at hnearest
    have hplus : neg = false := by rw [hneg hpos.ne', decide_eq_false (not_lt.mpr hpos.le)]
    have hone : 1 ≤ magnitude m e := by
      have hunit : magnitude 1 0 = 1 := by rw [magnitude, zpow_zero, Nat.cast_one, one_mul]
      rw [← hunit]
      refine hnearest.le_magnitude ⟨by norm_num, by decide, by decide⟩ ?_
      rw [hunit]
      exact_mod_cast tenTo_pos n
    refine ⟨m, e, by rw [hplus], ?_, hone,
      hnearest.magnitude_le_mul (tenTo_pos n) (tenTo_lt_limit hn)⟩
    rcases Nat.eq_zero_or_pos m with rfl | hm
    · rw [magnitude, Nat.cast_zero, zero_mul] at hone
      linarith
    · exact hm

/-- A number that is no greater than the integers of 64 bits. -/
def IsSmall (x : Binary64) : Prop :=
  ∃ neg m e, x = .finite neg m e ∧ Fits m e ∧ magnitude m e ≤ 2 ^ 64

theorem IsSmall.isFinite {x : Binary64} (h : IsSmall x) : IsFinite x := by
  obtain ⟨neg, m, e, rfl, hfits, -⟩ := h
  exact hfits

/-- What is rounded from no more is such a number. -/
theorem RoundsTo.isSmall {q : ℚ} {x : Binary64} (h : RoundsTo q x) (hq : |q| ≤ 2 ^ 64) :
    IsSmall x := by
  have hlimit : |q| < limit := by
    have hten : (2 : ℚ) ^ 64 ≤ tenTo 20 := by
      rw [tenTo_eq]
      norm_num
    exact (hq.trans hten).trans_lt (tenTo_lt_limit (by norm_num))
  have hfinite := h.isFinite hlimit
  cases x with
  | infinite neg => exact hfinite.elim
  | nan => exact hfinite.elim
  | finite neg m e =>
    have htop : magnitude (2 ^ 52) 12 = 2 ^ 64 := by
      rw [magnitude]
      norm_num
    refine ⟨neg, m, e, rfl, hfinite, ?_⟩
    rw [← htop] at hq ⊢
    exact h.2.1.magnitude_le ⟨by norm_num, by decide, by decide⟩ hq

theorem isSmall_ofRatio {n : Nat} (hn : n ≤ Json.significandLimit) :
    IsSmall (.ofRatio false n 1) := by
  refine (roundsTo_quotient false n Nat.one_pos).isSmall ?_
  have hle : n ≤ 2 ^ 64 := hn.trans (by decide)
  rw [abs_signed, Nat.cast_one, div_one, abs_of_nonneg (Nat.cast_nonneg n)]
  exact_mod_cast hle

/-- Dividing it by a power of ten leaves it so. -/
theorem IsSmall.div_powerOfTen {x : Binary64} (h : IsSmall x) {n : Nat} (hn : n ≤ 308) :
    IsSmall (x.div (Json.powerOfTen n)) := by
  obtain ⟨neg, m, e, rfl, -, hle⟩ := h
  obtain ⟨m', e', hpower, hpos, hone, -⟩ := exists_powerOfTen hn
  rw [hpower]
  refine (roundsTo_div neg false m hpos e e').isSmall ?_
  have hquotient : 0 ≤ magnitude m e / magnitude m' e' :=
    div_nonneg (magnitude_nonneg m e) (magnitude_nonneg m' e')
  rw [abs_signed, abs_of_nonneg hquotient]
  exact (div_le_self (magnitude_nonneg m e) hone).trans hle

/-- What is scaled is finite, if anything is. -/
theorem scaleByTen_isFinite {x y : Binary64} {e : Int} {fuel : Nat} (hx : IsSmall x)
    (h : Json.scaleByTen x e fuel = some y) : IsFinite y := by
  induction fuel generalizing x e with
  | zero =>
    cases h
    exact fits_zero
  | succ fuel ih =>
    rw [Json.scaleByTen] at h
    by_cases hrange : e.natAbs ≤ 308
    · rw [if_pos hrange] at h
      by_cases hup : 0 ≤ e
      · rw [if_pos hup] at h
        obtain ⟨neg, m, f, rfl, -, -⟩ := hx
        obtain ⟨m', f', hpower, -⟩ := exists_powerOfTen hrange
        rw [hpower] at h
        have hrounds := roundsTo_mul neg false m m' f f'
        split at h
        · cases h
        · next hne =>
          cases h
          exact hrounds.isFinite_of_ne hne
      · rw [if_neg hup] at h
        cases h
        exact (hx.div_powerOfTen hrange).isFinite
    · rw [if_neg hrange] at h
      split at h
      · cases h
        exact hx.isFinite
      split at h
      · cases h
      · exact ih (hx.div_powerOfTen le_rfl) h

/-- Scaling down always gives a number. -/
theorem exists_scaleByTen_of_neg {x : Binary64} {e : Int} (fuel : Nat) (he : e < 0) :
    ∃ y, Json.scaleByTen x e fuel = some y := by
  induction fuel generalizing x e with
  | zero => exact ⟨_, rfl⟩
  | succ fuel ih =>
    rw [Json.scaleByTen]
    by_cases hrange : e.natAbs ≤ 308
    · rw [if_pos hrange, if_neg (by omega)]
      exact ⟨_, rfl⟩
    · rw [if_neg hrange, if_neg (by omega : ¬0 ≤ e)]
      split
      · exact ⟨_, rfl⟩
      · exact ih (by omega)

/-- An integer of 64 bits grows by less than one part in 2^52. -/
theorem exists_ofRatio {s : Nat} (hs : s ≤ Json.significandLimit) :
    ∃ neg m e, ofRatio false s 1 = .finite neg m e ∧ magnitude m e ≤ s * (1 + 1 / 2 ^ 52) := by
  rcases Nat.eq_zero_or_pos s with rfl | hpos
  · exact ⟨false, 0, 0, rfl, by rw [magnitude]; norm_num⟩
  have hrounds := roundsTo_quotient false s Nat.one_pos
  obtain ⟨neg, m, e, hfinite, -, -⟩ := isSmall_ofRatio hs
  rw [hfinite, signed, if_neg Bool.false_ne_true, Nat.cast_one, div_one] at hrounds
  obtain ⟨hlimit, hnearest, -⟩ := hrounds
  rw [abs_of_nonneg (Nat.cast_nonneg s)] at hlimit hnearest
  exact ⟨neg, m, e, hfinite, hnearest.magnitude_le_mul hpos hlimit⟩

/-- Scaling up gives a number where the exact product stays a little below the limit. -/
theorem exists_scaleByTen {s n : Nat} (hs : s ≤ Json.significandLimit)
    (hlimit : (s : ℚ) * tenTo n * (1 + 1 / 2 ^ 52) ^ 2 < limit) (fuel : Nat) :
    ∃ y, Json.scaleByTen (.ofRatio false s 1) n (fuel + 1) = some y := by
  rw [Json.scaleByTen, Int.natAbs_natCast]
  by_cases hn : n ≤ 308
  · obtain ⟨neg, m, e, hx, hm⟩ := exists_ofRatio hs
    obtain ⟨m', e', hpower, -, -, hm'⟩ := exists_powerOfTen hn
    have hproduct : magnitude m e * magnitude m' e' < limit := by
      calc magnitude m e * magnitude m' e'
          ≤ s * (1 + 1 / 2 ^ 52) * (tenTo n * (1 + 1 / 2 ^ 52)) :=
            mul_le_mul hm hm' (magnitude_nonneg _ _) (by positivity)
        _ = s * tenTo n * (1 + 1 / 2 ^ 52) ^ 2 := by ring
        _ < limit := hlimit
    have hfinite : IsFinite ((finite neg m e).mul (finite false m' e')) := by
      refine (roundsTo_mul neg false m m' e e').isFinite ?_
      rw [abs_signed, abs_of_nonneg (mul_nonneg (magnitude_nonneg _ _) (magnitude_nonneg _ _))]
      exact hproduct
    rw [if_pos hn, if_pos (Int.natCast_nonneg n), hx, hpower]
    split
    · next hinfinite =>
      rw [hinfinite] at hfinite
      exact hfinite.elim
    · exact ⟨_, rfl⟩
  · rw [if_neg hn]
    rcases Nat.eq_zero_or_pos s with rfl | hpos
    · exact ⟨zero, if_pos rfl⟩
    · -- No positive number is left below the limit.
      exfalso
      have hone : (1 : ℚ) ≤ s * (1 + 1 / 2 ^ 52) ^ 2 := by
        have hcast : (1 : ℚ) ≤ s := by exact_mod_cast hpos
        exact hcast.trans (le_mul_of_one_le_right (by linarith) (by norm_num))
      have hten : (tenTo n : ℚ) ≤ s * tenTo n * (1 + 1 / 2 ^ 52) ^ 2 := by
        calc (tenTo n : ℚ) = 1 * tenTo n := (one_mul _).symm
          _ ≤ s * (1 + 1 / 2 ^ 52) ^ 2 * tenTo n :=
            mul_le_mul_of_nonneg_right hone (Nat.cast_nonneg _)
          _ = s * tenTo n * (1 + 1 / 2 ^ 52) ^ 2 := by ring
      linarith [limit_lt_tenTo (not_le.mp hn)]

/-! ## The shortest decimal -/

/-- The upper end of the interval is half a unit above the number. -/
theorem rounding_high (m : Nat) (e : Int) :
    0 < (rounding m e).den ∧ (rounding m e).mid ≤ (rounding m e).high ∧
      ((rounding m e).high : ℚ) / (rounding m e).den = (m + 1 / 2) * 2 ^ e := by
  rcases lt_or_ge e 0 with he | he
  · have hpow : (2 : ℚ) ^ e = ((twoTo (-e).toNat : Nat) : ℚ)⁻¹ := by
      have hone := magnitude_of_neg 1 he
      rwa [magnitude, Nat.cast_one, one_mul, one_div] at hone
    have hpos : (0 : ℚ) < twoTo (-e).toNat := Nat.cast_pos.mpr (twoTo_pos _)
    simp only [rounding, if_neg (not_le.mpr he), hpow]
    refine ⟨Nat.mul_pos (by norm_num) (twoTo_pos _), Nat.mul_le_mul_right _ (by omega), ?_⟩
    push_cast
    field_simp
    ring
  · have hpow : (2 : ℚ) ^ e = (twoTo e.toNat : Nat) := by
      have hone := magnitude_of_nonneg 1 he
      rwa [magnitude, Nat.cast_one, one_mul, one_mul] at hone
    simp only [rounding, if_pos he, hpow]
    refine ⟨by norm_num, Nat.mul_le_mul_right _ (by omega), ?_⟩
    push_cast
    ring

/-- A point in the interval is not above its upper end. -/
theorem Rounding.le_of_holds {r : Rounding} (hden : 0 < r.den) {k : Nat} {p : Int}
    (h : r.holds k p = true) : (k : ℚ) * 10 ^ p ≤ (r.high : ℚ) / r.den := by
  have hden' : (0 : ℚ) < r.den := Nat.cast_pos.mpr hden
  have hle : k * r.den * (if 0 ≤ p then tenTo p.toNat else 1)
      ≤ r.high * (if 0 ≤ p then 1 else tenTo (-p).toNat) := by
    rw [Rounding.holds] at h
    split at h
    · simp only [Bool.and_eq_true, decide_eq_true_eq] at h
      exact h.2
    · simp only [Bool.and_eq_true, decide_eq_true_eq] at h
      exact h.2.le
  rw [le_div_iff₀ hden']
  rcases lt_or_ge p 0 with hp | hp
  · rw [if_neg (not_le.mpr hp), if_neg (not_le.mpr hp), mul_one] at hle
    have hten : (0 : ℚ) < tenTo (-p).toNat := Nat.cast_pos.mpr (tenTo_pos _)
    have hpow : (10 : ℚ) ^ p = ((tenTo (-p).toNat : Nat) : ℚ)⁻¹ := by
      rw [tenTo_eq, Nat.cast_pow, ← zpow_natCast, ← zpow_neg, Int.toNat_of_nonneg (by omega),
        neg_neg]
      rfl
    have hcast : (k : ℚ) * r.den ≤ r.high * tenTo (-p).toNat := by exact_mod_cast hle
    rw [hpow, mul_right_comm, ← div_eq_mul_inv, div_le_iff₀ hten]
    exact hcast
  · rw [if_pos hp, if_pos hp, mul_one] at hle
    have hpow : (10 : ℚ) ^ p = (tenTo p.toNat : Nat) := by
      rw [tenTo_eq, Nat.cast_pow, ← zpow_natCast, Int.toNat_of_nonneg hp]
      rfl
    rw [hpow, mul_right_comm]
    exact_mod_cast hle

theorem Rounding.gridPoint?_spec {r : Rounding} {k : Nat} {p : Int}
    (h : r.gridPoint? p = some k) : 0 < k ∧ r.holds k p = true := by
  unfold Rounding.gridPoint? at h
  extract_lets num den below twice nearer other at h
  split at h
  · next hnearer =>
    rw [← Option.some.inj h]
    simpa using hnearer
  split at h
  · next hother =>
    rw [← Option.some.inj h]
    simpa using hother
  · cases h

/-- What is found is not above the upper end. It is positive, or a plain integer. -/
theorem Rounding.search_spec {r : Rounding} (hden : 0 < r.den) (hmid : r.mid ≤ r.high) (fuel : Nat)
    (p : Int) : ((r.search p fuel).1 : ℚ) * 10 ^ (r.search p fuel).2 ≤ (r.high : ℚ) / r.den ∧
      (0 < (r.search p fuel).1 ∨ (r.search p fuel).2 = 0) := by
  induction fuel generalizing p with
  | zero =>
    refine ⟨?_, .inr rfl⟩
    have hfloor : r.mid / r.den * r.den ≤ r.high := (Nat.div_mul_le_self _ _).trans hmid
    rw [Rounding.search, zpow_zero, mul_one, le_div_iff₀ (Nat.cast_pos.mpr hden)]
    exact_mod_cast hfloor
  | succ fuel ih =>
    rw [Rounding.search]
    cases hpoint : r.gridPoint? p with
    | none => exact ih (p - 1)
    | some k =>
      obtain ⟨hpos, hholds⟩ := Rounding.gridPoint?_spec hpoint
      exact ⟨Rounding.le_of_holds hden hholds, .inl hpos⟩

/-- Zeros at the end count in the power of ten. -/
theorem dropZeros_spec (fuel k : Nat) (p : Int) :
    ((dropZeros k p fuel).1 : ℚ) * 10 ^ (dropZeros k p fuel).2 = k * 10 ^ p ∧
      (0 < k ∨ p = 0 → 0 < (dropZeros k p fuel).1 ∨ (dropZeros k p fuel).2 = 0) := by
  induction fuel generalizing k p with
  | zero => exact ⟨rfl, id⟩
  | succ fuel ih =>
    rw [dropZeros]
    by_cases hzero : (k % 10 = 0 && 0 < k) = true
    · rw [if_pos hzero]
      simp only [Bool.and_eq_true, decide_eq_true_eq] at hzero
      obtain ⟨hvalue, hpos⟩ := ih (k / 10) (p + 1)
      refine ⟨hvalue.trans ?_, fun _ => hpos (.inl (by omega))⟩
      have hk : (k : ℚ) = (k / 10 : Nat) * 10 := by
        have hnat : k = k / 10 * 10 := by omega
        exact_mod_cast hnat
      rw [zpow_add_one₀ (by norm_num), ← mul_assoc, mul_right_comm, ← hk]
    · rw [if_neg hzero]
      exact ⟨rfl, id⟩

/-- The shortest decimal of a number is at most half a unit above it. -/
theorem shortest_spec (m : Nat) (e : Int) :
    ((shortest m e).1 : ℚ) * 10 ^ (shortest m e).2 ≤ (m + 1 / 2) * 2 ^ e ∧
      (0 < (shortest m e).1 ∨ (shortest m e).2 = 0) := by
  obtain ⟨hden, hmid, hhigh⟩ := rounding_high m e
  obtain ⟨hle, hpos⟩ := Rounding.search_spec hden hmid 18 (rounding m e).magnitude
  obtain ⟨hvalue, hpos'⟩ := dropZeros_spec 20 ((rounding m e).search (rounding m e).magnitude 18).1
    ((rounding m e).search (rounding m e).magnitude 18).2
  rw [hhigh, ← hvalue] at hle
  exact ⟨hle, hpos' hpos⟩

/-- The five greatest numbers can be scaled back from their shortest decimals. -/
theorem scaleByTen_greatest {m : Nat} (hlow : 2 ^ 53 - 5 ≤ m) (hhigh : m < 2 ^ 53) :
    (shortest m maxExponent).1 ≤ Json.significandLimit ∧
      (Json.scaleByTen (.ofRatio false (shortest m maxExponent).1 1)
        (shortest m maxExponent).2 4).isSome = true := by
  have hall : ∀ i < 5, (shortest (2 ^ 53 - 5 + i) maxExponent).1 ≤ Json.significandLimit ∧
      (Json.scaleByTen (.ofRatio false (shortest (2 ^ 53 - 5 + i) maxExponent).1 1)
        (shortest (2 ^ 53 - 5 + i) maxExponent).2 4).isSome = true := by
    decide +kernel
  have hm : m = 2 ^ 53 - 5 + (m - (2 ^ 53 - 5)) := by omega
  rw [hm]
  exact hall _ (by omega)

/-- A number of the format whose upper neighbourhood comes close to the limit is one of the five
greatest. -/
theorem Fits.eq_greatest {m : Nat} {e : Int} (h : Fits m e)
    (hclose : limit ≤ ((m : ℚ) + 1 / 2) * 2 ^ e * (1 + 1 / 2 ^ 52) ^ 2) :
    e = maxExponent ∧ 2 ^ 53 - 5 ≤ m := by
  have hunit : (0 : ℚ) < 2 ^ maxExponent := zpow_pos two_pos _
  have hm : (m : ℚ) + 1 ≤ 2 ^ 53 := by exact_mod_cast h.bits
  have htop : e = maxExponent := by
    by_contra hne
    have hlt : e ≤ maxExponent - 1 := by
      have hhigh := h.high
      omega
    have hpow : (2 : ℚ) ^ e ≤ 2 ^ maxExponent / 2 := by
      calc (2 : ℚ) ^ e ≤ 2 ^ (maxExponent - 1) := zpow_le_zpow_right₀ one_le_two hlt
        _ = 2 ^ maxExponent / 2 := by rw [zpow_sub_one₀ two_ne_zero, div_eq_mul_inv]
    have hbelow : ((m : ℚ) + 1 / 2) * 2 ^ e * (1 + 1 / 2 ^ 52) ^ 2
        ≤ 2 ^ 53 * (2 ^ maxExponent / 2) * (3 / 2) :=
      mul_le_mul (mul_le_mul (by linarith) hpow (zpow_nonneg zero_le_two _) (by positivity))
        (by norm_num) (by positivity) (by positivity)
    have hhalf : (2 : ℚ) ^ 53 * (2 ^ maxExponent / 2) * (3 / 2) < limit := by
      calc (2 : ℚ) ^ 53 * (2 ^ maxExponent / 2) * (3 / 2)
          = 2 ^ 53 * (3 / 4) * 2 ^ maxExponent := by ring
        _ < limit := mul_lt_mul_of_pos_right (by norm_num) hunit
    linarith
  refine ⟨htop, ?_⟩
  rw [htop, limit, mul_right_comm] at hclose
  have hsig := le_of_mul_le_mul_right hclose hunit
  by_contra hless
  have hm' : (m : ℚ) ≤ 2 ^ 53 - 6 := by
    have hnat : m + 6 ≤ 2 ^ 53 := by omega
    have hcast : (m : ℚ) + 6 ≤ 2 ^ 53 := by exact_mod_cast hnat
    linarith
  have hfar : ((m : ℚ) + 1 / 2) * (1 + 1 / 2 ^ 52) ^ 2
      ≤ (2 ^ 53 - 6 + 1 / 2) * (1 + 1 / 2 ^ 52) ^ 2 :=
    mul_le_mul_of_nonneg_right (by linarith) (by positivity)
  norm_num at hfar hsig
  linarith

/-- **Digits that are not above the shortest decimal of a number are scaled to a finite number**,
where they are all of its digits if they reach up to the limit. -/
theorem exists_scaleByTen_shortest {m : Nat} {e : Int} (hfits : Fits m e) {s : Nat} {f : Int}
    (hs : s ≤ Json.significandLimit)
    (hle : (s : ℚ) * 10 ^ f ≤ (shortest m e).1 * 10 ^ (shortest m e).2)
    (hexact : (shortest m e).1 ≤ Json.significandLimit → 0 ≤ f →
      s = (shortest m e).1 ∧ f = (shortest m e).2) :
    ∃ y, Json.scaleByTen (.ofRatio false s 1) f 4 = some y := by
  rcases lt_or_ge f 0 with hf | hf
  · exact exists_scaleByTen_of_neg 4 hf
  by_cases hclose : limit ≤ ((m : ℚ) + 1 / 2) * 2 ^ e * (1 + 1 / 2 ^ 52) ^ 2
  · obtain ⟨he, hlow⟩ := hfits.eq_greatest hclose
    obtain ⟨hkeep, hsome⟩ := scaleByTen_greatest hlow hfits.bits
    rw [he] at hexact
    obtain ⟨hs, hf⟩ := hexact hkeep hf
    rw [hs, hf]
    exact Option.isSome_iff_exists.mp hsome
  · obtain ⟨n, rfl⟩ := Int.eq_ofNat_of_zero_le hf
    have hpow : (10 : ℚ) ^ (n : Int) = (tenTo n : Nat) := by
      rw [zpow_natCast, tenTo_eq, Nat.cast_pow]
      rfl
    rw [hpow] at hle
    refine exists_scaleByTen hs ?_ 3
    calc (s : ℚ) * tenTo n * (1 + 1 / 2 ^ 52) ^ 2
        ≤ ((m : ℚ) + 1 / 2) * 2 ^ e * (1 + 1 / 2 ^ 52) ^ 2 :=
          mul_le_mul_of_nonneg_right (hle.trans (shortest_spec m e).1) (by positivity)
      _ < limit := not_le.mp hclose

end ClusterFixture.Number.Binary64
