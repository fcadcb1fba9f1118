/-
A count that a server writes is the count that is read.

Servers answer in text. A natural number in decimal has no blanks and no sign, its digits are read
from the left, and no step on the way leaves the range when the number itself lies in it, because
every step only adds digits to what has been read.
-/

import ClusterFixture.Sql.Row

set_option autoImplicit false

namespace ClusterFixture

namespace Number

/-! ## Ranges -/

theorem IntRange.holds_iff (r : IntRange) (n : Int) :
    r.holds n = true ↔ r.low ≤ n ∧ n ≤ r.high := by
  simp [IntRange.holds]

/-- A natural number lies in the range of so many bits if it is below their power of two. -/
theorem holds_unsignedRange (bits n : Nat) :
    (unsignedRange bits).holds n = true ↔ n < twoTo bits := by
  rw [IntRange.holds_iff]
  simp only [unsignedRange]
  omega

/-! ## Digits -/

/-- What has been read is never more than what will have been read. -/
theorem le_ofDigitChars (cs : List Char) (value : Nat) :
    value ≤ Nat.ofDigitChars 10 cs value := by
  induction cs generalizing value with
  | nil => simp
  | cons c rest ih =>
    rw [Nat.ofDigitChars_cons]
    calc value ≤ 10 * value + (c.toNat - '0'.toNat) := by omega
      _ ≤ _ := ih _

/-- Digits are read to the end, if the number that they write lies in the range. -/
theorem readDigits_of_isDigit (r : IntRange) (cs : List Char) (value : Nat) (hlow : r.low ≤ 0)
    (hdigits : ∀ c ∈ cs, c.isDigit = true)
    (hhigh : (Nat.ofDigitChars 10 cs value : Int) ≤ r.high) :
    readDigits r false value cs = .ok (Nat.ofDigitChars 10 cs value : Int) := by
  induction cs generalizing value with
  | nil => simp [readDigits]
  | cons c rest ih =>
    have hc : c.isDigit = true := hdigits c (by simp)
    have hstep : (value : Int) * 10 + ((c.toNat - '0'.toNat : Nat) : Int)
        = ((10 * value + (c.toNat - '0'.toNat) : Nat) : Int) := by
      push_cast
      omega
    have hrest := le_ofDigitChars rest (10 * value + (c.toNat - '0'.toNat))
    rw [Nat.ofDigitChars_cons] at hhigh ⊢
    rw [readDigits, digitValue?, if_pos hc]
    simp only [Bool.false_eq_true, if_false]
    rw [hstep, if_neg (by omega), if_neg (by omega)]
    exact ih _ (fun d hd => hdigits d (by simp [hd])) hhigh

/-- A text of digits has no sign. -/
theorem readIntegerChars_of_isDigit (r : IntRange) (cs : List Char) (hne : cs ≠ [])
    (hdigits : ∀ c ∈ cs, c.isDigit = true) :
    readIntegerChars r cs = readDigits r false 0 cs := by
  rcases cs with _ | ⟨c, rest⟩
  · exact absurd rfl hne
  · have hc : c.isDigit = true := hdigits c (by simp)
    have hplus : c ≠ '+' := by rintro rfl; revert hc; decide
    have hminus : c ≠ '-' := by rintro rfl; revert hc; decide
    cases rest <;> simp [readIntegerChars, hplus, hminus]

/-- A natural number of a range is read as itself. -/
theorem readInteger_repr (r : IntRange) (n : Nat) (hlow : r.low ≤ 0) (hn : (n : Int) ≤ r.high) :
    readInteger r n.repr = .ok (n : Int) := by
  have hdigits : ∀ c ∈ Nat.toDigits 10 n, c.isDigit = true :=
    fun c hc => Nat.isDigit_of_mem_toDigits (by omega) (by omega) hc
  have hvalue : Nat.ofDigitChars 10 (Nat.toDigits 10 n) 0 = n := Nat.ofDigitChars_ten_toDigits
  rw [readInteger, Nat.toList_repr, readIntegerChars_of_isDigit r _ Nat.toDigits_ne_nil hdigits]
  have hread := readDigits_of_isDigit r (Nat.toDigits 10 n) 0 hlow hdigits
    (by rw [hvalue]; exact hn)
  rw [hvalue] at hread
  exact hread

/-! ## Wider ranges -/

/-- What is read within a range is read within a wider one. -/
theorem readDigits_mono {r wide : IntRange} (hlow : wide.low ≤ r.low) (hhigh : r.high ≤ wide.high)
    {down : Bool} {value n : Int} {cs : List Char} (h : readDigits r down value cs = .ok n) :
    readDigits wide down value cs = .ok n := by
  fun_induction readDigits r down value cs with
  | case1 => exact h
  | case2 => cases h
  | case3 => cases h
  | case4 => cases h
  | case5 value c rest d hd next hbelow habove ih =>
    rw [readDigits, hd]
    simp only
    rw [if_neg (by omega), if_neg (by omega)]
    exact ih h

/-- What is read consists of digits. -/
theorem isDigit_of_readDigits {r : IntRange} {down : Bool} {value n : Int} {cs : List Char}
    (h : readDigits r down value cs = .ok n) : ∀ c ∈ cs, c.isDigit = true := by
  fun_induction readDigits r down value cs with
  | case1 => simp
  | case2 => cases h
  | case3 => cases h
  | case4 => cases h
  | case5 value c rest d hd next hbelow habove ih =>
    refine List.forall_mem_cons.mpr ⟨?_, ih h⟩
    by_cases hc : c.isDigit = true
    · exact hc
    · rw [digitValue?, if_neg hc] at hd
      cases hd

/-- Without a sign for numbers below zero, only a plus may stand before the digits. -/
theorem readIntegerChars_eq_ok {r : IntRange} (hr : ¬r.low < 0) {cs : List Char} {n : Int}
    (h : readIntegerChars r cs = .ok n) :
    ∃ lead digits, cs = lead ++ digits ∧ (∀ c ∈ lead, c = '+') ∧
      readDigits r false 0 digits = .ok n ∧
      ∀ wide : IntRange, ¬wide.low < 0 → readDigits wide false 0 digits = .ok n →
        readIntegerChars wide cs = .ok n := by
  rcases cs with _ | ⟨c, _ | ⟨d, rest⟩⟩
  · cases h
  · rw [readIntegerChars] at h
    by_cases hsign : (c = '+' || c = '-') = true
    · rw [if_pos hsign] at h
      cases h
    · rw [if_neg hsign] at h
      exact ⟨[], [c], rfl, by simp, h, fun wide _ hwide => by
        rw [readIntegerChars, if_neg hsign, hwide]⟩
  · by_cases hplus : c = '+'
    · simp only [readIntegerChars, if_pos hplus] at h
      exact ⟨[c], d :: rest, rfl, by simpa using hplus, h, fun wide _ hwide => by
        simpa only [readIntegerChars, if_pos hplus] using hwide⟩
    · simp only [readIntegerChars, if_neg hplus, decide_eq_false hr, Bool.and_false,
        Bool.false_eq_true, if_false] at h
      exact ⟨[], c :: d :: rest, rfl, by simp, h, fun wide hwide hread => by
        simpa only [readIntegerChars, if_neg hplus, decide_eq_false hwide, Bool.and_false,
          Bool.false_eq_true, if_false] using hread⟩

theorem low_unsignedRange (bits : Nat) : ¬(unsignedRange bits).low < 0 := by
  simp [unsignedRange]

/-- A number of some bits is one of more bits. -/
theorem readInteger_mono {bits wide : Nat} (hle : bits ≤ wide) {s : String} {n : Int}
    (h : readInteger (unsignedRange bits) s = .ok n) :
    readInteger (unsignedRange wide) s = .ok n := by
  obtain ⟨lead, digits, -, -, hread, hwide⟩ := readIntegerChars_eq_ok (low_unsignedRange bits) h
  have hpow : twoTo bits ≤ twoTo wide := Nat.pow_le_pow_right (by decide) hle
  refine hwide _ (low_unsignedRange wide) (readDigits_mono (Int.le_refl 0) ?_ hread)
  simp only [unsignedRange]
  omega

/-- What is read lies in the range. -/
theorem holds_of_readInteger {bits : Nat} {s : String} {n : Int}
    (h : readInteger (unsignedRange bits) s = .ok n) : (unsignedRange bits).holds n = true := by
  obtain ⟨lead, digits, -, -, hread, -⟩ := readIntegerChars_eq_ok (low_unsignedRange bits) h
  have hpos : 0 < twoTo bits := Nat.pow_pos (by decide)
  exact readDigits_mem _ _ 0 n digits ((holds_unsignedRange bits 0).mpr hpos) hread

/-- A number is written in digits and pluses. -/
theorem isDigit_of_readInteger {bits : Nat} {s : String} {n : Int}
    (h : readInteger (unsignedRange bits) s = .ok n) :
    ∀ c ∈ s.toList, c.isDigit = true ∨ c = '+' := by
  obtain ⟨lead, digits, hs, hlead, hread, -⟩ :=
    readIntegerChars_eq_ok (low_unsignedRange bits) h
  intro c hc
  rw [hs] at hc
  rcases List.mem_append.mp hc with hc | hc
  · exact .inr (hlead c hc)
  · exact .inl (isDigit_of_readDigits hread c hc)

end Number

/-! ## Blanks -/

namespace Text

theorem isBlank_of_isDigit {c : Char} (h : c.isDigit = true) : isBlank c = false := by
  have h1 : 48 ≤ c.toNat := by
    simp only [Char.isDigit, Bool.and_eq_true, decide_eq_true_eq, ge_iff_le] at h
    exact h.1
  have h2 : c.toNat ≤ 57 := by
    simp only [Char.isDigit, Bool.and_eq_true, decide_eq_true_eq, ge_iff_le] at h
    exact h.2
  simp only [isBlank, Bool.or_eq_false_iff, Bool.and_eq_false_iff, decide_eq_false_iff_not,
    beq_eq_false_iff_ne]
  omega

/-- Trimming leaves a text alone that holds no blank. -/
theorem trimChars_of_not_isBlank (cs : List Char) (h : ∀ c ∈ cs, isBlank c = false) :
    trimChars cs = cs := by
  have hdrop : ∀ l : List Char, (∀ c ∈ l, isBlank c = false) → l.dropWhile isBlank = l := by
    intro l hl
    cases l with
    | nil => rfl
    | cons c rest => rw [List.dropWhile_cons, hl c (by simp)]; rfl
  rw [trimChars, trimStartChars, hdrop cs h, trimEndChars, hdrop cs.reverse (by simpa using h),
    List.reverse_reverse]

/-- No digit of a number is a blank. -/
theorem isBlank_of_mem_repr {n : Nat} {c : Char} (hc : c ∈ n.repr.toList) : isBlank c = false := by
  rw [Nat.toList_repr] at hc
  exact isBlank_of_isDigit (Nat.isDigit_of_mem_toDigits (by omega) (by omega) hc)

theorem trim_repr (n : Nat) : trim n.repr = n.repr := by
  rw [trim, trimChars_of_not_isBlank _ fun c hc => isBlank_of_mem_repr hc, String.ofList_toList]

end Text

/-! ## Two counts of one list -/

/-- Where all that one test accepts is accepted by another one, the two count the same exactly when
they accept the same. The induction is on the list; a member that only the second test accepts
makes the counts differ, and they never meet again. -/
theorem countP_eq_countP_iff {α : Type} {p q : α → Bool} {l : List α}
    (himp : ∀ a ∈ l, p a = true → q a = true) :
    l.countP p = l.countP q ↔ ∀ a ∈ l, q a = true → p a = true := by
  induction l with
  | nil => simp
  | cons a rest ih =>
    have hle : rest.countP p ≤ rest.countP q :=
      List.countP_mono_left fun b hb => himp b (by simp [hb])
    have hrest := ih fun b hb => himp b (by simp [hb])
    rw [List.forall_mem_cons, ← hrest, List.countP_cons, List.countP_cons]
    by_cases hq : q a = true
    · by_cases hp : p a = true
      · simp [hp, hq]
      · simp only [hp, hq, if_true, forall_const, false_and, iff_false, Bool.false_eq_true,
          if_false]
        omega
    · have hp : ¬p a = true := fun hp => hq (himp a (by simp) hp)
      simp [hp, hq]

/-! ## Counts in rows -/

namespace Sql.Row

/-- The row that answers a count. -/
def ofCount (n : Nat) : Row := ofTexts [Number.decimal n]

/-- A column that writes a number of at most 63 bits is read as that number. -/
theorem integer_of_text {row : Row} {i n : Nat} (htext : row.text i = .ok n.repr)
    (hn : n < Number.twoTo 63) : row.integer i = .ok (n : Int) := by
  have hread : Number.readInteger (Number.signedRange 64) n.repr = .ok (n : Int) := by
    refine Number.readInteger_repr _ n ?_ ?_
    · decide
    · have hhigh : (Number.signedRange 64).high = (Number.twoTo 63 : Int) - 1 := rfl
      omega
  rw [integer, htext]
  simp only [bind, Except.bind, Text.trim_repr, integerOf, hread]

/-- A count of at most 63 bits is read as itself. -/
theorem integer_ofCount (n : Nat) (hn : n < Number.twoTo 63) :
    (ofCount n).integer 0 = .ok (n : Int) :=
  integer_of_text rfl hn

end Sql.Row

end ClusterFixture
