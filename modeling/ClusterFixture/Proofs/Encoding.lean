/-
A text that was written as bytes is read back from them, and texts are in the order of their bytes.

Each character is read as itself, whatever follows it. Its first byte tells how many bytes follow
and within which bounds the first of these lies. The narrower bounds shut out only what no character
is written as: the shorter forms, the surrogates, and numbers beyond the last character.
-/

import ClusterFixture.Text.Utf8
import Mathlib.Data.String.Basic
import Mathlib.Tactic.SplitIfs

set_option autoImplicit false

namespace ClusterFixture.Text

/-! ## Bytes -/

theorem toNat_ofNat_of_lt {n : Nat} (hbyte : n < 256) : (UInt8.ofNat n).toNat = n := by
  rw [UInt8.toNat_ofNat']
  omega

/-- A further byte within the bounds adds its six bits. -/
theorem takeTail_cons {k lo hi point n : Nat} (hlo : lo ≤ n) (hhi : n ≤ hi) (hbyte : n < 256)
    (more : Bytes) :
    takeTail (k + 1) lo hi point (UInt8.ofNat n :: more) =
      takeTail k 0x80 0xBF (point * 64 + n % 64) more := by
  rw [takeTail, toNat_ofNat_of_lt hbyte, if_pos (by simp [hlo, hhi])]

/-! ## Characters of several bytes -/

/-- Two bytes. -/
theorem takeChar_two {n : Nat} (hlow : 0x80 ≤ n) (hhigh : n < 0x800) (rest : Bytes) :
    takeChar (UInt8.ofNat (0xC0 + n / 64)) (UInt8.ofNat (0x80 + n % 64) :: rest) =
      (some (Char.ofNat n), rest) := by
  have hbyte : (UInt8.ofNat (0xC0 + n / 64)).toNat = 0xC0 + n / 64 := toNat_ofNat_of_lt (by omega)
  have hlead : continuation (UInt8.ofNat (0xC0 + n / 64)) = some (1, 0x80, 0xBF) := by
    rw [continuation, hbyte]
    simp only [Bool.and_eq_true, decide_eq_true_eq]
    rw [if_pos (by omega)]
  have hpoint : (0xC0 + n / 64) % 32 * 64 + (0x80 + n % 64) % 64 = n := by omega
  rw [takeChar, hbyte, if_neg (by omega), hlead]
  simp only [beq_self_eq_true, if_true]
  rw [takeTail_cons (by omega) (by omega) (by omega), takeTail, hpoint]
  rfl

/-- Three bytes. The bounds of the second one depend on the first, and leave out what is shorter
and what is a surrogate. -/
theorem takeChar_three {n : Nat} (hlow : 0x800 ≤ n) (hhigh : n < 0x10000)
    (hvalid : n < 0xD800 ∨ 0xDFFF < n) (rest : Bytes) :
    takeChar (UInt8.ofNat (0xE0 + n / 4096))
        (UInt8.ofNat (0x80 + n / 64 % 64) :: UInt8.ofNat (0x80 + n % 64) :: rest) =
      (some (Char.ofNat n), rest) := by
  have hbyte : (UInt8.ofNat (0xE0 + n / 4096)).toNat = 0xE0 + n / 4096 :=
    toNat_ofNat_of_lt (by omega)
  obtain ⟨lo, hi, hlead, hlo, hhi⟩ : ∃ lo hi,
      continuation (UInt8.ofNat (0xE0 + n / 4096)) = some (2, lo, hi) ∧
        lo ≤ 0x80 + n / 64 % 64 ∧ 0x80 + n / 64 % 64 ≤ hi := by
    rw [continuation, hbyte]
    simp only [Bool.and_eq_true, decide_eq_true_eq, beq_iff_eq]
    rw [if_neg (by omega)]
    by_cases hfirst : 0xE0 + n / 4096 = 0xE0
    · -- The lower bound shuts out what two bytes can hold.
      rw [if_pos hfirst]
      exact ⟨_, _, rfl, by omega, by omega⟩
    rw [if_neg hfirst]
    by_cases hsurrogate : 0xE0 + n / 4096 = 0xED
    · -- The upper bound shuts out the surrogates.
      rw [if_pos hsurrogate]
      exact ⟨_, _, rfl, by omega, by omega⟩
    rw [if_neg hsurrogate, if_pos (by omega)]
    exact ⟨_, _, rfl, by omega, by omega⟩
  have hpoint : ((0xE0 + n / 4096) % 16 * 64 + (0x80 + n / 64 % 64) % 64) * 64
      + (0x80 + n % 64) % 64 = n := by
    omega
  rw [takeChar, hbyte, if_neg (by omega), hlead]
  simp only [Nat.reduceBEq, Bool.false_eq_true, if_false, if_true]
  rw [takeTail_cons hlo hhi (by omega), takeTail_cons (by omega) (by omega) (by omega), takeTail,
    hpoint]
  rfl

/-- Four bytes. -/
theorem takeChar_four {n : Nat} (hlow : 0x10000 ≤ n) (hhigh : n < 0x110000) (rest : Bytes) :
    takeChar (UInt8.ofNat (0xF0 + n / 262144))
        (UInt8.ofNat (0x80 + n / 4096 % 64) :: UInt8.ofNat (0x80 + n / 64 % 64) ::
          UInt8.ofNat (0x80 + n % 64) :: rest) =
      (some (Char.ofNat n), rest) := by
  have hbyte : (UInt8.ofNat (0xF0 + n / 262144)).toNat = 0xF0 + n / 262144 :=
    toNat_ofNat_of_lt (by omega)
  obtain ⟨lo, hi, hlead, hlo, hhi⟩ : ∃ lo hi,
      continuation (UInt8.ofNat (0xF0 + n / 262144)) = some (3, lo, hi) ∧
        lo ≤ 0x80 + n / 4096 % 64 ∧ 0x80 + n / 4096 % 64 ≤ hi := by
    rw [continuation, hbyte]
    simp only [Bool.and_eq_true, decide_eq_true_eq, beq_iff_eq]
    rw [if_neg (by omega), if_neg (by omega), if_neg (by omega), if_neg (by omega)]
    by_cases hfirst : 0xF0 + n / 262144 = 0xF0
    · rw [if_pos hfirst]
      exact ⟨_, _, rfl, by omega, by omega⟩
    rw [if_neg hfirst]
    by_cases hlast : 0xF0 + n / 262144 = 0xF4
    · -- The upper bound shuts out what is beyond the last character.
      rw [if_neg (by omega), if_pos hlast]
      exact ⟨_, _, rfl, by omega, by omega⟩
    rw [if_pos (by omega)]
    exact ⟨_, _, rfl, by omega, by omega⟩
  have hpoint : (((0xF0 + n / 262144) % 8 * 64 + (0x80 + n / 4096 % 64) % 64) * 64
      + (0x80 + n / 64 % 64) % 64) * 64 + (0x80 + n % 64) % 64 = n := by
    omega
  rw [takeChar, hbyte, if_neg (by omega), hlead]
  simp only [Nat.reduceBEq, Bool.false_eq_true, if_false]
  rw [takeTail_cons hlo hhi (by omega), takeTail_cons (by omega) (by omega) (by omega),
    takeTail_cons (by omega) (by omega) (by omega), takeTail, hpoint]
  rfl

/-! ## Texts -/

/-- A character is read from its bytes, and nothing of what follows. -/
theorem pieces_utf8Char_append (c : Char) (rest : Bytes) :
    pieces (utf8Char c ++ rest) = some c :: pieces rest := by
  have hvalid : c.toNat < 0xD800 ∨ 0xDFFF < c.toNat ∧ c.toNat < 0x110000 := c.valid
  have hchar : Char.ofNat c.toNat = c := Char.ofNat_toNat c
  unfold utf8Char
  by_cases h1 : c.toNat < 0x80
  · have hbyte : (UInt8.ofNat c.toNat).toNat = c.toNat := toNat_ofNat_of_lt (by omega)
    rw [if_pos h1, List.singleton_append, pieces, takeChar, hbyte, if_pos h1, hchar]
  rw [if_neg h1]
  by_cases h2 : c.toNat < 0x800
  · rw [if_pos h2, List.cons_append, List.singleton_append, pieces,
      takeChar_two (by omega) h2, hchar]
  rw [if_neg h2]
  by_cases h3 : c.toNat < 0x10000
  · rw [if_pos h3]
    simp only [List.cons_append, List.nil_append]
    rw [pieces, takeChar_three (by omega) h3 (by omega), hchar]
  · rw [if_neg h3]
    simp only [List.cons_append, List.nil_append]
    rw [pieces, takeChar_four (by omega) (by omega), hchar]

theorem pieces_utf8Chars (cs : List Char) : pieces (utf8Chars cs) = cs.map some := by
  unfold utf8Chars
  induction cs with
  | nil =>
    rw [List.flatMap_nil, pieces]
    rfl
  | cons c rest ih => rw [List.flatMap_cons, pieces_utf8Char_append, ih, List.map_cons]

/-- A text is what its bytes are read as. -/
theorem ofUtf8?_utf8 (s : String) : ofUtf8? (utf8 s) = some s := by
  have hall : ∀ cs : List Char, (cs.map some).mapM id = some cs := by
    intro cs
    induction cs with
    | nil => rfl
    | cons c rest ih => simp [ih]
  rw [ofUtf8?, utf8, chars?, pieces_utf8Chars, hall, Option.map_some, String.ofList_toList]

/-- So it is when broken pieces are put up with. -/
theorem ofUtf8Lenient_utf8 (s : String) : ofUtf8Lenient (utf8 s) = s := by
  have hid : ((fun piece : Option Char => piece.getD '\uFFFD') ∘ some) = id := rfl
  rw [ofUtf8Lenient, utf8, pieces_utf8Chars, List.map_map, hid, List.map_id, String.ofList_toList]

/-! ## Order -/

theorem ofNat_cons_lt_iff {m n : Nat} (hm : m < 256) (hn : n < 256) {x y : Bytes} :
    UInt8.ofNat m :: x < UInt8.ofNat n :: y ↔ m < n ∨ m = n ∧ x < y := by
  rw [List.cons_lt_cons_iff, UInt8.lt_iff_toNat_lt, ← UInt8.toNat_inj, toNat_ofNat_of_lt hm,
    toNat_ofNat_of_lt hn]

/-- The bytes of the lower character come first, whatever follows them. -/
theorem utf8Char_append_lt {c d : Char} (h : c < d) (x y : Bytes) :
    utf8Char c ++ x < utf8Char d ++ y := by
  have hlt : c.toNat < d.toNat := h
  have hvalid : d.toNat < 0xD800 ∨ 0xDFFF < d.toNat ∧ d.toNat < 0x110000 := d.valid
  -- More bytes begin with a higher one; among as many, the bytes are the digits of the number.
  unfold utf8Char
  dsimp only
  split_ifs
  all_goals first
    | omega
    | simp (disch := omega) only [List.cons_append, List.nil_append, ofNat_cons_lt_iff]
      omega

theorem utf8Chars_lt {cs ds : List Char} (h : cs < ds) : utf8Chars cs < utf8Chars ds := by
  unfold utf8Chars
  induction cs generalizing ds with
  | nil =>
    cases ds with
    | nil => exact absurd h (lt_irrefl _)
    | cons d more =>
      obtain ⟨b, rest, hbytes⟩ : ∃ b rest, utf8Char d = b :: rest := by
        unfold utf8Char
        dsimp only
        split_ifs <;> exact ⟨_, _, rfl⟩
      rw [List.flatMap_nil, List.flatMap_cons, hbytes]
      exact List.nil_lt_cons ..
  | cons c rest ih =>
    cases ds with
    | nil => exact absurd h (List.not_lt_nil _)
    | cons d more =>
      rw [List.flatMap_cons, List.flatMap_cons]
      rcases List.cons_lt_cons_iff.mp h with hlower | ⟨rfl, hmore⟩
      · exact utf8Char_append_lt hlower _ _
      · exact List.append_left_lt (ih hmore)

/-- Texts are in the order of their bytes. -/
theorem utf8_lt {s t : String} (h : s < t) : utf8 s < utf8 t :=
  utf8Chars_lt (String.lt_iff_toList_lt.mp h)

end ClusterFixture.Text
