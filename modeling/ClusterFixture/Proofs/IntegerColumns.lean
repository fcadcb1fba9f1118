/-
What is read from a column that holds a decimal numeral.

A numeral without point and power is read as the integer that it is. Every other one, and an integer
out of range, goes through the format binary64, which rounds, and whatever integer is found there is
kept within 64 bits. So a fraction that is rounded away is not seen, and an integer out of range
becomes the end of the range. The file says exactly for which numerals the integer that is read is
the value, or a fault where the value is no integer of the range; counts are compared by the same
reading.
-/

import ClusterFixture.Operation.Catalog
import ClusterFixture.Proofs.Comparison
import ClusterFixture.Proofs.Numerals

set_option autoImplicit false

namespace ClusterFixture

open ClusterFixture.Number

/-! ## The range -/

namespace Number

/-- Integers of the range are far below the limit of the format. -/
theorem abs_lt_limit {n : Int} (hn : (signedRange 64).holds n = true) :
    |(n : ℚ)| < Binary64.limit := by
  rw [IntRange.holds_iff] at hn
  have habs : |n| ≤ 2 ^ 63 := by
    simp only [signedRange, twoTo_eq] at hn
    push_cast at hn
    rw [abs_le]
    omega
  calc |(n : ℚ)| ≤ 2 ^ 63 := by exact_mod_cast habs
    _ < 2 ^ 64 := by norm_num
    _ ≤ Binary64.limit := Binary64.twoTo_le_limit

theorem holds_clamp (n : Int) : (signedRange 64).holds ((signedRange 64).clamp n) = true := by
  rw [IntRange.holds_iff, IntRange.clamp]
  have hle : (signedRange 64).low ≤ (signedRange 64).high := by decide
  omega

theorem IntRange.clamp_of_holds {r : IntRange} {n : Int} (hn : r.holds n = true) :
    r.clamp n = n := by
  rw [IntRange.holds_iff] at hn
  rw [IntRange.clamp]
  omega

end Number

/-! ## Reading a numeral -/

namespace Sql.Row

/-- The value of a numeral is an integer of the range, and there is neither point nor power. -/
def ReadsDirectly (l : Numeral) : Prop :=
  l.IsPlain ∧ ∃ n : Int, l.value = n ∧ (signedRange 64).holds n = true

/-- What is read is the value, where that is an integer of the range, and a fault otherwise. -/
def IsExact (read : Checked Int) (l : Numeral) : Prop :=
  ∀ n : Int, read = .ok n ↔ l.value = n ∧ (signedRange 64).holds n = true

section

variable {l : Numeral}

theorem integerOf_of_readsDirectly (h : l.IsPlain) {n : Int} (hvalue : l.value = n)
    (hrange : (signedRange 64).holds n = true) : integerOf l.text = .ok n := by
  rw [integerOf, (l.readInteger_text_iff n).mpr ⟨h, hvalue, hrange⟩]

/-- Otherwise the nearest number of the format is looked at. -/
theorem integerOf_of_not_readsDirectly (h : ¬ReadsDirectly l) :
    integerOf l.text =
      match l.nearest.toInt? with
      | some n => .ok ((signedRange 64).clamp n)
      | none => .error (fractional l.text) := by
  rw [integerOf, l.readDecimal_text]
  rcases hread : readInteger (signedRange 64) l.text with f | n
  · rfl
  · obtain ⟨hplain, hvalue⟩ := (l.readInteger_text_iff n).mp hread
    exact absurd ⟨hplain, n, hvalue⟩ h

theorem isExact_of_readsDirectly (h : ReadsDirectly l) : IsExact (integerOf l.text) l := by
  obtain ⟨hplain, value, hvalue, hrange⟩ := h
  intro n
  rw [integerOf_of_readsDirectly hplain hvalue hrange, hvalue, Int.cast_inj, Except.ok.injEq]
  constructor
  · rintro rfl
    exact ⟨rfl, hrange⟩
  · exact And.left

/-- What went through the format is exact unless an integer was found there that is not the value
when it is kept within the range. A value that is an integer of the range is found. -/
theorem isExact_iff_of_not_readsDirectly (h : ¬ReadsDirectly l) :
    IsExact (integerOf l.text) l ↔
      ∀ n : Int, l.nearest.value? = some (n : ℚ) → l.value = (signedRange 64).clamp n := by
  have hrounds := l.roundsTo_nearest
  rw [integerOf_of_not_readsDirectly h]
  rcases hinteger : l.nearest.toInt? with _ | n
  · have hnone : ∀ n : Int, l.nearest.value? ≠ some (n : ℚ) := by
      intro n hn
      rw [(Binary64.toInt?_eq_some_iff _ n).mpr hn] at hinteger
      cases hinteger
    refine iff_of_true (fun n => iff_of_false nofun ?_) fun n hn => absurd hn (hnone n)
    rintro ⟨hvalue, hrange⟩
    rw [hvalue] at hrounds
    obtain ⟨n', hn'⟩ := hrounds.isInteger (abs_lt_limit hrange)
    exact hnone n' hn'
  · have hvalue := (Binary64.toInt?_eq_some_iff _ n).mp hinteger
    constructor
    · intro hexact n' hn'
      rw [hvalue, Option.some.injEq, Int.cast_inj] at hn'
      rw [← hn']
      exact ((hexact _).mp rfl).1
    · intro hclamp n'
      rw [hclamp n hvalue, Int.cast_inj]
      constructor
      · intro hread
        rw [← Except.ok.inj hread]
        exact ⟨rfl, holds_clamp n⟩
      · rintro ⟨hread, -⟩
        exact congrArg Except.ok hread

/-- Integers of at most 53 bits are read, in whatever way they are written. -/
theorem integerOf_of_le {n : Int} (hvalue : l.value = n) (hn : |n| ≤ 2 ^ 53) :
    integerOf l.text = .ok n := by
  have hrange : (signedRange 64).holds n = true := by
    rw [abs_le] at hn
    rw [IntRange.holds_iff]
    simp only [signedRange, twoTo_eq]
    omega
  have hexact : IsExact (integerOf l.text) l := by
    by_cases hdirect : ReadsDirectly l
    · exact isExact_of_readsDirectly hdirect
    · refine (isExact_iff_of_not_readsDirectly hdirect).mpr fun n' hn' => ?_
      have hrounds := l.roundsTo_nearest
      rw [hvalue] at hrounds
      rw [hrounds.value?_of_le hn, Option.some.injEq, Int.cast_inj] at hn'
      rw [hvalue, ← hn', IntRange.clamp_of_holds hrange]
  exact (hexact n).mpr ⟨hvalue, hrange⟩

/-- The column of a row that holds a numeral, with blanks around it or without. -/
theorem integer_eq_integerOf {row : Row} {i : Nat} {text : String}
    (hcolumn : row.columns[i]? = some (some text)) (htext : Text.trim text = l.text) :
    row.integer i = integerOf l.text := by
  rw [integer, Row.text, hcolumn, ← htext]
  rfl

end

end Sql.Row

/-! ## Comparing counts -/

namespace Op

variable {σ : Type}

/-- A comparison with the count that a query answers passes where the count is read as the expected
one. -/
theorem runAt_count_compare {database statement text : String} {site : Site σ} {w : World σ}
    (hanswer : (runAt (single database statement) site w).1 = .ok text) (expected : Int)
    (fault : Int → Fault) :
    (runAt (count database statement >>= fun actual =>
        if actual != expected then throw (fault actual) else pure ()) site w).1 = .ok () ↔
      (Sql.Row.ofTexts [text]).integer 0 = .ok expected := by
  obtain ⟨w', hsingle⟩ : ∃ w', runAt (single database statement) site w = (.ok text, w') :=
    ⟨_, Prod.ext hanswer rfl⟩
  have hcount : runAt (count database statement) site w =
      ((Sql.Row.ofTexts [text]).integer 0, w') := by
    rw [count, runAt_bind_ok hsingle, runAt_check]
  rcases hread : (Sql.Row.ofTexts [text]).integer 0 with f | actual
  · rw [hread] at hcount
    rw [runAt_bind_error hcount]
    exact ⟨nofun, nofun⟩
  · rw [hread] at hcount
    rw [runAt_bind_ok hcount, Except.ok.injEq]
    by_cases hsame : actual = expected
    · rw [if_neg (by simp [hsame])]
      exact iff_of_true rfl hsame
    · rw [if_pos (by simpa using hsame)]
      exact iff_of_false nofun hsame

end Op

open Op (runAt single checkCount checkRowCount)

/-- What is read from a column that holds a decimal numeral. Behind it is the number of the format
binary64 that is nearest to the value. The reading is exact, so that it answers the value where that
is an integer of 64 bits and a fault otherwise, just for the integers of the range without point and
power, and for those numerals whose nearest number is no integer or one that is the value once it is
kept within the range. Integers of at most 53 bits are read in whatever way they are written.
Comparing a count passes exactly when the count is read as the expected one,
that is, where the reading is exact, when it is the expected one. -/
theorem integer_exact_iff {σ : Type} {row : Sql.Row} {i : Nat} {text : String} {l : Numeral}
    (hcolumn : row.columns[i]? = some (some text)) (htext : Text.trim text = l.text)
    (site : Site σ) (w : World σ) :
    Binary64.RoundsTo l.value l.nearest ∧
      (Sql.Row.IsExact (row.integer i) l ↔
        Sql.Row.ReadsDirectly l ∨
          ∀ n : Int, l.nearest.value? = some (n : ℚ) → l.value = (signedRange 64).clamp n) ∧
      (∀ n : Int, l.value = n → |n| ≤ 2 ^ 53 → row.integer i = .ok n) ∧
      (∀ database statement, (runAt (single database statement) site w).1 = .ok text →
        ∀ expected, (runAt (checkCount database statement expected) site w).1 = .ok () ↔
          row.integer i = .ok expected) ∧
      ∀ database table,
        (runAt (single database (Sql.Statement.rowCount table)) site w).1 = .ok text →
        ∀ expected, (runAt (checkRowCount table database expected) site w).1 = .ok () ↔
          row.integer i = .ok expected := by
  have hread : row.integer i = Sql.Row.integerOf l.text :=
    Sql.Row.integer_eq_integerOf hcolumn htext
  have hcount : (Sql.Row.ofTexts [text]).integer 0 = row.integer i :=
    (Sql.Row.integer_eq_integerOf rfl htext).trans hread.symm
  refine ⟨l.roundsTo_nearest, ?_, ?_, ?_, ?_⟩
  · rw [hread]
    by_cases hdirect : Sql.Row.ReadsDirectly l
    · exact iff_of_true (Sql.Row.isExact_of_readsDirectly hdirect) (.inl hdirect)
    · rw [Sql.Row.isExact_iff_of_not_readsDirectly hdirect, or_iff_right hdirect]
  · intro n hvalue hn
    rw [hread]
    exact Sql.Row.integerOf_of_le hvalue hn
  · intro database statement hanswer expected
    rw [← hcount]
    exact Op.runAt_count_compare hanswer expected (Op.unexpectedCount database statement · expected)
  · intro database table hanswer expected
    rw [← hcount]
    exact Op.runAt_count_compare hanswer expected (Op.unexpectedCount database table · expected)

/-! ## A count that is read, and two numerals that are not -/

/-- A numeral with a point and no power. -/
def pointed (whole places : Digits) (h : whole.chars ≠ []) : Numeral :=
  ⟨none, whole, some places, none, .inl h⟩

/-- Three, with a point. -/
def threePointed : Numeral := pointed (.ofText "3" (by decide)) (.ofText "0" (by decide)) (by decide)

theorem value_threePointed : threePointed.value = (3 : Int) := by
  have hwhole : threePointed.whole.value = 3 := by decide
  have hplaces : Nat.ofDigitChars 10 threePointed.places 0 = 0 := by decide
  rw [Numeral.value, hwhole, hplaces]
  norm_num [threePointed, pointed, Numeral.exponent, Binary64.signed, Sign.isMinus]

/-- A server that answers every query with this count. -/
def threeCounter : Services Unit where
  query _ _ := fun state => (.ok [.ofTexts [" 3.0 "]], state)
  execute _ _ := fun state => (.ok (), state)
  run _ := fun state => (.error (.plain .commandFailed "no commands"), state)

/-- A count with a point and a zero behind it, and with blanks around it, is the expected one. -/
theorem integer_exact_iff_three :
    (runAt (checkRowCount "public.t" "db" 3) (Op.dataSite threeCounter) ⟨(), ⟨[]⟩, [], []⟩).1 =
      .ok () := by
  have htext : Text.trim " 3.0 " = threePointed.text := by decide
  have hcolumn : (Sql.Row.ofTexts [" 3.0 "]).columns[0]? = some (some " 3.0 ") := rfl
  obtain ⟨_, _, hread, _, hcount⟩ := integer_exact_iff hcolumn htext (Op.dataSite threeCounter)
    ⟨(), ⟨[]⟩, [], []⟩
  exact (hcount "db" "public.t" rfl 3).mpr (hread 3 value_threePointed (by decide))

/-- A half above the greatest integer of 53 bits and its successor. -/
def halfAbove : Numeral :=
  pointed (.ofText "9007199254740992" (by decide)) (.ofText "5" (by decide)) (by decide)

/-- The first integer above the range. -/
def firstAbove : Numeral :=
  ⟨none, .ofText "9223372036854775808" (by decide), none, none, .inl (by decide)⟩

theorem value_halfAbove : halfAbove.value = 9007199254740992 + 1 / 2 := by
  have hwhole : halfAbove.whole.value = 9007199254740992 := by decide +kernel
  have hplaces : Nat.ofDigitChars 10 halfAbove.places 0 = 5 := by decide
  have hcount : halfAbove.places.length = 1 := by decide
  rw [Numeral.value, hwhole, hplaces, hcount]
  norm_num [halfAbove, pointed, Numeral.exponent, Binary64.signed, Sign.isMinus]

theorem value_firstAbove : firstAbove.value = 9223372036854775808 := by
  have hwhole : firstAbove.whole.value = 9223372036854775808 := by decide +kernel
  have hplaces : Nat.ofDigitChars 10 firstAbove.places 0 = 0 := by decide
  rw [Numeral.value, hwhole, hplaces]
  norm_num [firstAbove, Numeral.places, Numeral.exponent, Binary64.signed, Sign.isMinus]

/-- A fraction that is rounded away is not seen, and an integer above the range is read as the
greatest one in it. -/
theorem integer_of_rounded :
    halfAbove.text = "9007199254740992.5" ∧ halfAbove.value = 9007199254740992 + 1 / 2 ∧
      (Sql.Row.ofTexts ["9007199254740992.5"]).integer 0 = .ok 9007199254740992 ∧
      firstAbove.text = "9223372036854775808" ∧ firstAbove.value = 9223372036854775808 ∧
      (Sql.Row.ofTexts ["9223372036854775808"]).integer 0 = .ok 9223372036854775807 := by
  have htext : halfAbove.text = "9007199254740992.5" := by decide
  have htext' : firstAbove.text = "9223372036854775808" := by decide
  have htrim : Text.trim "9007199254740992.5" = halfAbove.text := by decide
  have htrim' : Text.trim "9223372036854775808" = firstAbove.text := by decide
  have hfound : halfAbove.nearest.toInt? = some 9007199254740992 := by decide +kernel
  have hfound' : firstAbove.nearest.toInt? = some 9223372036854775808 := by decide +kernel
  have hpoint : ¬Sql.Row.ReadsDirectly halfAbove := fun h => nomatch h.1.1
  have hrange : ¬Sql.Row.ReadsDirectly firstAbove := by
    rintro ⟨-, n, hvalue, hholds⟩
    rw [value_firstAbove] at hvalue
    have hn : n = 9223372036854775808 := by exact_mod_cast hvalue.symm
    rw [hn] at hholds
    exact absurd hholds (by decide)
  refine ⟨htext, value_halfAbove, ?_, htext', value_firstAbove, ?_⟩
  · rw [Sql.Row.integer_eq_integerOf rfl htrim, Sql.Row.integerOf_of_not_readsDirectly hpoint,
      hfound]
    rfl
  · rw [Sql.Row.integer_eq_integerOf rfl htrim', Sql.Row.integerOf_of_not_readsDirectly hrange,
      hfound']
    rfl

end ClusterFixture
