/-
A JSON text that is written is read back.

Inside quotes every character is written by itself or as one escape, so a text is read back
character by character. A number needs a look at what follows it: digits only end where no digit
follows, and no point and no exponent. In what is written a comma, a bracket or a brace follows, or
nothing.

The reader puts the members of an object in order; the writer does not. So what is read is the value
with its members in order. A number that is no integer may come back as another one, or as nothing
where it is not finite: what is read of its own text stands in its place.
-/

import ClusterFixture.Json.Print
import ClusterFixture.Json.Read
import ClusterFixture.Proofs.Counting

set_option autoImplicit false

namespace ClusterFixture.Json

open ClusterFixture.Number

/-! ## Values that texts keep -/

mutual

/-- Whether a text keeps a value but for the numbers that are no integers, which are all of a kind:
every integer has 64 bits, and there are fewer levels of arrays and objects than given. -/
def KeptWith (floats : Binary64 → Prop) (levels : Nat) : Json → Prop
  | .integer n => -(twoTo 63 : Int) ≤ n ∧ n < twoTo 64
  | .float x => floats x
  | .array items => 1 < levels ∧ KeptItemsWith floats (levels - 1) items
  | .object members => 1 < levels ∧ KeptMembersWith floats (levels - 1) members
  | _ => True

/-- Whether a text keeps all items so. -/
def KeptItemsWith (floats : Binary64 → Prop) (levels : Nat) : List Json → Prop
  | [] => True
  | item :: rest => KeptWith floats levels item ∧ KeptItemsWith floats levels rest

/-- Whether a text keeps all members so. -/
def KeptMembersWith (floats : Binary64 → Prop) (levels : Nat) : List (String × Json) → Prop
  | [] => True
  | (_, value) :: rest => KeptWith floats levels value ∧ KeptMembersWith floats levels rest

end

/-- Whether a text keeps a value: every number is an integer of 64 bits. -/
abbrev Kept (levels : Nat) : Json → Prop := KeptWith (fun _ => False) levels

mutual

/-- What holds of a kind of numbers may be asked for instead of it. -/
theorem KeptWith.mono {P Q : Binary64 → Prop} (h : ∀ x, P x → Q x) {levels : Nat} :
    ∀ {j : Json}, KeptWith P levels j → KeptWith Q levels j
  | .null, _ => trivial
  | .bool _, _ => trivial
  | .integer _, hj => hj
  | .float x, hj => h x hj
  | .string _, _ => trivial
  | .array _, hj => ⟨hj.1, KeptItemsWith.mono h hj.2⟩
  | .object _, hj => ⟨hj.1, KeptMembersWith.mono h hj.2⟩

theorem KeptItemsWith.mono {P Q : Binary64 → Prop} (h : ∀ x, P x → Q x) {levels : Nat} :
    ∀ {items : List Json}, KeptItemsWith P levels items → KeptItemsWith Q levels items
  | [], _ => trivial
  | _ :: _, hitems => ⟨hitems.1.mono h, KeptItemsWith.mono h hitems.2⟩

theorem KeptMembersWith.mono {P Q : Binary64 → Prop} (h : ∀ x, P x → Q x) {levels : Nat} :
    ∀ {members : List (String × Json)}, KeptMembersWith P levels members →
      KeptMembersWith Q levels members
  | [], _ => trivial
  | _ :: _, hmembers => ⟨hmembers.1.mono h, KeptMembersWith.mono h hmembers.2⟩

end

mutual

/-- A value with the members of every object in order. -/
def ordered : Json → Json
  | .array items => .array (orderedItems items)
  | .object members => .ofMembers (orderedMembers members)
  | j => j

/-- Items, each in order. -/
def orderedItems : List Json → List Json
  | [] => []
  | item :: rest => item.ordered :: orderedItems rest

/-- Members, the value of each in order. -/
def orderedMembers : List (String × Json) → List (String × Json)
  | [] => []
  | (key, value) :: rest => (key, value.ordered) :: orderedMembers rest

end

/-- What is read of the text of a number that is no integer. -/
def rereadFloat (x : Binary64) : Json := ((value? 1 1 (floatChars x)).map Prod.fst).getD .null

mutual

/-- What is read of the text of a value: its members in order, and in place of every number that is
no integer what is read of its text. -/
def reread : Json → Json
  | .float x => rereadFloat x
  | .array items => .array (rereadItems items)
  | .object members => .ofMembers (rereadMembers members)
  | j => j

/-- Items, each reread. -/
def rereadItems : List Json → List Json
  | [] => []
  | item :: rest => item.reread :: rereadItems rest

/-- Members, the value of each reread. -/
def rereadMembers : List (String × Json) → List (String × Json)
  | [] => []
  | (key, value) :: rest => (key, value.reread) :: rereadMembers rest

end

mutual

/-- A value that a text keeps is read as itself, its members in order. -/
theorem reread_eq_ordered {levels : Nat} : ∀ {j : Json}, Kept levels j → j.reread = j.ordered
  | .null, _ => rfl
  | .bool _, _ => rfl
  | .integer _, _ => rfl
  | .float _, h => h.elim
  | .string _, _ => rfl
  | .array _, h => congrArg Json.array (rereadItems_eq h.2)
  | .object _, h => congrArg ofMembers (rereadMembers_eq h.2)

theorem rereadItems_eq {levels : Nat} : ∀ {items : List Json},
    KeptItemsWith (fun _ => False) levels items → rereadItems items = orderedItems items
  | [], _ => rfl
  | _ :: _, h => by
    rw [rereadItems, orderedItems, reread_eq_ordered h.1, rereadItems_eq h.2]

theorem rereadMembers_eq {levels : Nat} : ∀ {members : List (String × Json)},
    KeptMembersWith (fun _ => False) levels members →
      rereadMembers members = orderedMembers members
  | [], _ => rfl
  | _ :: _, h => by
    rw [rereadMembers, orderedMembers, reread_eq_ordered h.1, rereadMembers_eq h.2]

end

/-! ## Texts -/

/-- A character below the blank is read from its two hexadecimal digits. -/
theorem codePoint?_hexDigit {n : Nat} (hn : n < 0x20) (rest : List Char) :
    codePoint? ('0' :: '0' :: hexDigit (n / 16) :: hexDigit (n % 16) :: rest)
      = some (Char.ofNat n, rest) := by
  have hvalue : ∀ k < 0x20, natIn? 16 ['0', '0', hexDigit (k / 16), hexDigit (k % 16)] = some k := by
    decide
  rw [codePoint?, fourDigits?, hvalue n hn]
  simp only [Option.map_some]
  rw [if_neg (by simp; omega), if_neg (by simp; omega)]

/-- A character is written as an escape that means it, or by itself where it needs none. -/
theorem escapedChar_cases (c : Char) :
    (∃ word, escapedChar c = '\\' :: word ∧ ∀ rest, escape? (word ++ rest) = some (c, rest))
      ∨ (escapedChar c = [c] ∧ c ≠ '"' ∧ c ≠ '\\' ∧ 0x20 ≤ c.toNat) := by
  unfold escapedChar
  by_cases h1 : c = '"'
  · exact .inl ⟨['"'], by rw [if_pos h1], fun rest => by simp [escape?, h1]⟩
  rw [if_neg h1]
  by_cases h2 : c = '\\'
  · exact .inl ⟨['\\'], by rw [if_pos h2], fun rest => by simp [escape?, h2]⟩
  rw [if_neg h2]
  by_cases h3 : c = '\x08'
  · exact .inl ⟨['b'], by rw [if_pos h3], fun rest => by simp [escape?, h3]⟩
  rw [if_neg h3]
  by_cases h4 : c = '\t'
  · exact .inl ⟨['t'], by rw [if_pos h4], fun rest => by simp [escape?, h4]⟩
  rw [if_neg h4]
  by_cases h5 : c = '\n'
  · exact .inl ⟨['n'], by rw [if_pos h5], fun rest => by simp [escape?, h5]⟩
  rw [if_neg h5]
  by_cases h6 : c = '\x0c'
  · exact .inl ⟨['f'], by rw [if_pos h6], fun rest => by simp [escape?, h6]⟩
  rw [if_neg h6]
  by_cases h7 : c = '\r'
  · exact .inl ⟨['r'], by rw [if_pos h7], fun rest => by simp [escape?, h7]⟩
  rw [if_neg h7]
  by_cases h8 : c.toNat < 0x20
  · refine .inl ⟨_, by rw [if_pos h8], fun rest => ?_⟩
    have hpoint := codePoint?_hexDigit h8 rest
    rw [Char.ofNat_toNat] at hpoint
    simpa [escape?] using hpoint
  · rw [if_neg h8]
    exact .inr ⟨rfl, h1, h2, by omega⟩

/-- What stands for a character inside quotes is read as the character. -/
theorem stringBody?_escapedChar (c : Char) (rest : List Char) :
    stringBody? (escapedChar c ++ rest)
      = (stringBody? rest).map fun (cs, left) => (c :: cs, left) := by
  rcases escapedChar_cases c with ⟨word, hword, hread⟩ | ⟨hself, hquote, hslash, hlow⟩
  · rw [hword, List.cons_append, stringBody?, if_neg (by decide), if_pos rfl]
    split
    · next hnone => rw [hread] at hnone; cases hnone
    · next hsome =>
      rw [hread] at hsome
      cases hsome
      rfl
  · rw [hself, List.singleton_append, stringBody?, if_neg hquote, if_neg hslash,
      if_neg (by omega)]

/-- A text in quotes is read up to the closing one. -/
theorem stringBody?_stringChars (cs rest : List Char) :
    stringBody? (cs.flatMap escapedChar ++ '"' :: rest) = some (cs, rest) := by
  induction cs with
  | nil => simp [stringBody?]
  | cons c cs ih =>
    rw [List.flatMap_cons, List.append_assoc, stringBody?_escapedChar, ih]
    rfl

/-! ## Numbers -/

/-- The characters that numbers are made of. -/
def isNumeralChar (c : Char) : Bool :=
  c.isDigit || c = '+' || c = '-' || c = '.' || c = 'e' || c = 'E'

theorem isNumeralChar_of_isDigit {c : Char} (h : c.isDigit = true) : isNumeralChar c = true := by
  simp [isNumeralChar, h]

/-- What may follow a number: nothing, or what does not go on with it. -/
def Closes (rest : List Char) : Prop := ∀ c ∈ rest.head?, isNumeralChar c = false

theorem closes_nil : Closes [] := nofun

theorem closes_cons {c : Char} (h : isNumeralChar c = false) (rest : List Char) :
    Closes (c :: rest) := by
  intro d hd
  cases hd
  exact h

theorem Closes.head {c : Char} {rest : List Char} (h : Closes (c :: rest)) :
    c.isDigit = false ∧ c ≠ '.' ∧ c ≠ 'e' ∧ c ≠ 'E' := by
  have hc := h c rfl
  simp only [isNumeralChar, Bool.or_eq_false_iff, decide_eq_false_iff_not] at hc
  exact ⟨hc.1.1.1.1.1, hc.1.1.2, hc.1.2, hc.2⟩

/-- Where digits end: what follows is none. -/
def EndsDigits (rest : List Char) : Prop := ∀ c ∈ rest.head?, c.isDigit = false

theorem Closes.endsDigits {rest : List Char} (h : Closes rest) : EndsDigits rest := by
  cases rest with
  | nil => exact nofun
  | cons c rest =>
    intro d hd
    cases hd
    exact h.head.1

/-- Digits are taken from the start, as many as fit: all of them where their number does. -/
theorem exists_takeSignificand (cs : List Char) {value : Nat}
    (hdigits : ∀ c ∈ cs, c.isDigit = true) (hvalue : value ≤ significandLimit) :
    ∃ n ≤ cs.length, Nat.ofDigitChars 10 (cs.take n) value ≤ significandLimit ∧
      (Nat.ofDigitChars 10 cs value ≤ significandLimit → n = cs.length) ∧
      ∀ taken rest, EndsDigits rest → takeSignificand value taken (cs ++ rest)
        = (Nat.ofDigitChars 10 (cs.take n) value, taken + n, cs.drop n ++ rest) := by
  induction cs generalizing value with
  | nil =>
    refine ⟨0, Nat.le_refl 0, hvalue, fun _ => rfl, fun taken rest hrest => ?_⟩
    cases rest with
    | nil => rfl
    | cons c rest =>
      have hc : digitValue? c = none := by
        rw [digitValue?, hrest c rfl]
        rfl
      simp [takeSignificand, hc]
  | cons c cs ih =>
    have hc : digitValue? c = some (c.toNat - '0'.toNat) := by
      rw [digitValue?, if_pos (hdigits c List.mem_cons_self)]
    by_cases hfits : 10 * value + (c.toNat - '0'.toNat) ≤ significandLimit
    · obtain ⟨n, hn, hle, hall, htake⟩ :=
        ih (fun d hd => hdigits d (List.mem_cons_of_mem _ hd)) hfits
      refine ⟨n + 1, Nat.succ_le_succ hn, hle, fun hsmall => ?_, fun taken rest hrest => ?_⟩
      · rw [hall hsmall, List.length_cons]
      · rw [List.cons_append, takeSignificand, hc]
        simp only [Nat.mul_comm value 10]
        rw [if_pos hfits, htake (taken + 1) rest hrest, List.take_succ_cons, Nat.ofDigitChars_cons,
          List.drop_succ_cons, Nat.add_right_comm, Nat.add_assoc]
    · refine ⟨0, Nat.zero_le _, hvalue, fun hsmall => ?_, fun taken rest _ => ?_⟩
      · rw [Nat.ofDigitChars_cons] at hsmall
        exact absurd (Nat.le_trans (le_ofDigitChars cs _) hsmall) hfits
      · rw [List.cons_append, takeSignificand, hc]
        simp only [Nat.mul_comm value 10]
        rw [if_neg hfits]
        rfl

/-- Digits are taken to the end where they fit. -/
theorem takeSignificand_append (cs : List Char) {rest : List Char} (value taken : Nat)
    (hdigits : ∀ c ∈ cs, c.isDigit = true)
    (hfits : Nat.ofDigitChars 10 cs value ≤ significandLimit) (hrest : EndsDigits rest) :
    takeSignificand value taken (cs ++ rest)
      = (Nat.ofDigitChars 10 cs value, taken + cs.length, rest) := by
  obtain ⟨n, -, -, hall, htake⟩ := exists_takeSignificand cs hdigits
    (Nat.le_trans (le_ofDigitChars cs value) hfits)
  rw [htake taken rest hrest, hall hfits, List.take_length, List.drop_length, List.nil_append]

/-- Digits reach up to what is none. -/
theorem takeWhile_isDigit {cs rest : List Char} (hdigits : ∀ c ∈ cs, c.isDigit = true)
    (hrest : EndsDigits rest) :
    (cs ++ rest).takeWhile Char.isDigit = cs ∧ (cs ++ rest).dropWhile Char.isDigit = rest := by
  rw [List.takeWhile_append_of_pos hdigits, List.dropWhile_append_of_pos hdigits]
  cases rest with
  | nil => simp
  | cons c rest =>
    have hc : c.isDigit = false := hrest c rfl
    simp [hc]

/-- They are passed over so far. -/
theorem skipDigits_append (cs : List Char) {rest : List Char}
    (hdigits : ∀ c ∈ cs, c.isDigit = true) (hrest : EndsDigits rest) :
    skipDigits (cs ++ rest) = (cs.length, rest) := by
  obtain ⟨htake, hdrop⟩ := takeWhile_isDigit hdigits hrest
  rw [skipDigits, htake, hdrop]

/-- Where neither a point nor an exponent follows, the number is an integer. -/
theorem afterWhole?_of_closes (neg : Bool) (n : Nat) {rest : List Char} (hrest : Closes rest) :
    afterWhole? neg n 0 rest = some (integerValue neg n, rest) := by
  cases rest with
  | nil => rfl
  | cons c rest =>
    obtain ⟨-, hpoint, hsmall, hlarge⟩ := hrest.head
    unfold afterWhole?
    split
    · next heq => exact absurd (List.cons.inj heq).1 hpoint
    · next heq => exact absurd (List.cons.inj heq).1 hsmall
    · next heq => exact absurd (List.cons.inj heq).1 hlarge
    · rfl

/-- The first digit of a positive number is not zero. -/
theorem head?_toDigits_ne_zero (n : Nat) (hn : 0 < n) :
    (Nat.toDigits 10 n).head? ≠ some '0' := by
  induction n using Nat.strongRecOn with
  | ind n ih =>
    by_cases hsmall : n < 10
    · have hdigit : ∀ k < 10, 0 < k → Nat.digitChar k ≠ '0' := by decide
      rw [Nat.toDigits_of_lt_base hsmall]
      simpa using hdigit n hsmall hn
    · have hrest := ih (n / 10) (by omega) (by omega)
      rw [Nat.toDigits_of_base_le (by decide) (by omega)]
      cases hchars : Nat.toDigits 10 (n / 10) with
      | nil => exact absurd hchars Nat.toDigits_ne_nil
      | cons c cs =>
        rw [hchars] at hrest
        simpa using hrest

/-- Digits that fit are taken, where they do not begin with a needless zero, and what follows them
decides. -/
theorem unsigned?_digits (neg : Bool) {cs rest : List Char} (hdigits : ∀ c ∈ cs, c.isDigit = true)
    (hlead : cs = ['0'] ∨ (cs ≠ [] ∧ cs.head? ≠ some '0'))
    (hfits : Nat.ofDigitChars 10 cs 0 ≤ significandLimit) (hrest : EndsDigits rest) :
    unsigned? neg (cs ++ rest) = afterWhole? neg (Nat.ofDigitChars 10 cs 0) 0 rest := by
  have htake := takeSignificand_append cs 0 0 hdigits hfits hrest
  have hskip : skipDigits rest = (0, rest) := skipDigits_append [] (List.forall_mem_nil _) hrest
  rcases hlead with rfl | ⟨hne, hfirst⟩
  · have hnodigit : (rest.head?.map Char.isDigit).getD false = false := by
      cases rest with
      | nil => rfl
      | cons c rest => simpa using hrest c rfl
    rw [List.singleton_append, unsigned?, if_pos rfl, hnodigit]
    rfl
  · cases cs with
    | nil => exact absurd rfl hne
    | cons c cs =>
      rw [List.cons_append, unsigned?, if_neg (by simpa using hfirst),
        if_pos (hdigits c (by simp)), ← List.cons_append, htake]
      simp only [hskip]

/-- A number does not begin with a needless zero. -/
theorem toDigits_lead (n : Nat) : Nat.toDigits 10 n = ['0'] ∨
    (Nat.toDigits 10 n ≠ [] ∧ (Nat.toDigits 10 n).head? ≠ some '0') := by
  rcases Nat.eq_zero_or_pos n with rfl | hpos
  · exact .inl (Nat.toDigits_zero 10)
  · exact .inr ⟨Nat.toDigits_ne_nil, head?_toDigits_ne_zero n hpos⟩

/-- So are those of a natural number. -/
theorem unsigned?_toDigits (neg : Bool) {n : Nat} (hn : n < twoTo 64) {rest : List Char}
    (hrest : EndsDigits rest) :
    unsigned? neg (Nat.toDigits 10 n ++ rest) = afterWhole? neg n 0 rest := by
  have hvalue : Nat.ofDigitChars 10 (Nat.toDigits 10 n) 0 = n := Nat.ofDigitChars_ten_toDigits
  rw [unsigned?_digits neg (fun c hc => Nat.isDigit_of_mem_toDigits (by omega) (by omega) hc)
    (toDigits_lead n) (by rw [hvalue, significandLimit]; omega) hrest, hvalue]

/-! ## Values -/

/-- A word is read back. -/
theorem word?_append (word : String) (value : Json) (rest : List Char) :
    word? word value (word.toList ++ rest) = some (value, rest) := by
  rw [word?, if_pos (by simp), ← String.length_toList, List.drop_left]

/-- The sign and the digits of an integer. -/
theorem toList_decimal (n : Int) :
    (decimal n).toList
      = if n < 0 then '-' :: Nat.toDigits 10 n.natAbs else Nat.toDigits 10 n.natAbs := by
  cases n with
  | ofNat k => simp [decimal, Nat.toList_repr]
  | negSucc k => simp [decimal, Nat.toList_repr, Int.negSucc_lt_zero]

/-- A number that is no integer and whose text is read as a value, whatever follows it. -/
structure FloatReads (x : Binary64) : Prop where
  starts : ∃ c cs, floatChars x = c :: cs ∧ isSpace c = false ∧ c ≠ ']'
  reads : ∀ fuel levels rest, Closes rest →
    value? (fuel + 1) levels (floatChars x ++ rest) = some (rereadFloat x, rest)

theorem ne_of_isDigit {c d : Char} (hc : c.isDigit = true) (hd : d.isDigit = false) : c ≠ d := by
  rintro rfl
  rw [hc] at hd
  cases hd

theorem not_isSpace_of_isDigit {c : Char} (hc : c.isDigit = true) : isSpace c = false := by
  have hne : ∀ d, d.isDigit = false → c ≠ d := fun _ => ne_of_isDigit hc
  simp [isSpace, hne]

/-- A value begins with what is neither passed over as a blank nor taken for the end of a list. -/
theorem chars_eq_cons (j : Json) {levels : Nat} (hj : KeptWith FloatReads levels j) :
    ∃ c cs, j.chars = c :: cs ∧ isSpace c = false ∧ c ≠ ']' := by
  cases j with
  | null => exact ⟨'n', _, rfl, rfl, by decide⟩
  | bool b => cases b <;> exact ⟨_, _, rfl, rfl, by decide⟩
  | integer n =>
    rw [chars, toList_decimal]
    by_cases hn : n < 0
    · rw [if_pos hn]
      exact ⟨'-', _, rfl, rfl, by decide⟩
    · rw [if_neg hn]
      cases hchars : Nat.toDigits 10 n.natAbs with
      | nil => exact absurd hchars Nat.toDigits_ne_nil
      | cons c cs =>
        have hc : c.isDigit = true :=
          Nat.isDigit_of_mem_toDigits (by decide) (by decide) (hchars ▸ List.mem_cons_self)
        exact ⟨c, cs, rfl, not_isSpace_of_isDigit hc, ne_of_isDigit hc rfl⟩
  | float x => exact hj.starts
  | string s => exact ⟨'"', _, rfl, rfl, by decide⟩
  | array items => exact ⟨'[', _, rfl, rfl, by decide⟩
  | object members => exact ⟨'\x7b', _, rfl, rfl, by decide⟩

/-- What does not begin with a blank is not shortened. -/
theorem skipSpace_cons {c : Char} {cs : List Char} (h : isSpace c = false) :
    skipSpace (c :: cs) = c :: cs := by
  rw [skipSpace, List.dropWhile_cons, h]
  rfl

/-- Items begin as the first of them does. -/
theorem itemChars_eq_cons (item : Json) (items : List Json) {levels : Nat}
    (hitem : KeptWith FloatReads levels item) :
    ∃ c cs, itemChars (item :: items) = c :: cs ∧ isSpace c = false ∧ c ≠ ']' := by
  obtain ⟨c, cs, hchars, hspace, hend⟩ := chars_eq_cons item hitem
  cases items with
  | nil => exact ⟨c, cs, by rw [itemChars, hchars], hspace, hend⟩
  | cons next rest =>
    exact ⟨c, cs ++ ',' :: itemChars (next :: rest), by simp [itemChars, hchars], hspace, hend⟩

/-- Members begin with the quote of the first key. -/
theorem memberChars_eq_cons (key : String) (value : Json) (members : List (String × Json)) :
    ∃ cs, memberChars ((key, value) :: members) = '"' :: cs := by
  cases members with
  | nil => exact ⟨_, rfl⟩
  | cons member members => exact ⟨_, rfl⟩

/-! ## One step of the reader

What a value begins with decides how it is read. -/

section Step

variable (fuel levels : Nat)

theorem value?_quote (rest : List Char) :
    value? (fuel + 1) levels ('"' :: rest)
      = (stringBody? rest).map fun (cs, left) => (.string (String.ofList cs), left) := by
  rw [value?, skipSpace_cons rfl]
  rfl

theorem value?_word {c : Char} (hc : c = 'n' ∨ c = 't' ∨ c = 'f') (rest : List Char) :
    value? (fuel + 1) levels (c :: rest)
      = if c = 'n' then word? "null" .null (c :: rest)
        else if c = 't' then word? "true" (.bool true) (c :: rest)
        else word? "false" (.bool false) (c :: rest) := by
  rcases hc with rfl | rfl | rfl <;> rw [value?, skipSpace_cons rfl] <;> rfl

theorem value?_minus (rest : List Char) :
    value? (fuel + 1) levels ('-' :: rest) = unsigned? true rest := by
  rw [value?, skipSpace_cons rfl]
  rfl

theorem value?_digit {c : Char} (hc : c.isDigit = true) (rest : List Char) :
    value? (fuel + 1) levels (c :: rest) = unsigned? false (c :: rest) := by
  have hne : ∀ d, d.isDigit = false → c ≠ d := fun _ => ne_of_isDigit hc
  rw [value?, skipSpace_cons (not_isSpace_of_isDigit hc)]
  simp [hne]

theorem value?_items (hlevels : 1 < levels) {c : Char} {rest : List Char}
    (hspace : isSpace c = false) (hend : c ≠ ']') :
    value? (fuel + 1) levels ('[' :: c :: rest)
      = (items? fuel (levels - 1) (c :: rest)).map fun (items, left) => (.array items, left) := by
  rw [value?, skipSpace_cons rfl]
  dsimp only
  rw [if_neg (by decide), if_pos rfl, if_neg (by omega), skipSpace_cons hspace]
  split
  · next heq => exact absurd (List.cons.inj heq).1 hend
  · rfl

theorem value?_noItems (hlevels : 1 < levels) (rest : List Char) :
    value? (fuel + 1) levels ('[' :: ']' :: rest) = some (.array [], rest) := by
  rw [value?, skipSpace_cons rfl]
  dsimp only
  rw [if_neg (by decide), if_pos rfl, if_neg (by omega), skipSpace_cons rfl]
  rfl

theorem value?_noMembers (hlevels : 1 < levels) (rest : List Char) :
    value? (fuel + 1) levels ('\x7b' :: '\x7d' :: rest) = some (.object [], rest) := by
  rw [value?, skipSpace_cons rfl]
  dsimp only
  rw [if_neg (by decide), if_neg (by decide), if_pos rfl, if_neg (by omega), skipSpace_cons rfl]
  rfl

theorem value?_members (hlevels : 1 < levels) (rest : List Char) :
    value? (fuel + 1) levels ('\x7b' :: '"' :: rest)
      = (members? fuel (levels - 1) ('"' :: rest)).map
        fun (members, left) => (ofMembers members, left) := by
  rw [value?, skipSpace_cons rfl]
  dsimp only
  rw [if_neg (by decide), if_neg (by decide), if_pos rfl, if_neg (by omega), skipSpace_cons rfl]
  rfl

end Step

/-- An integer of 64 bits is read back. -/
theorem value?_decimal (fuel levels : Nat) {n : Int} {rest : List Char}
    (hlow : -(twoTo 63 : Int) ≤ n) (hhigh : n < twoTo 64) (hrest : Closes rest) :
    value? (fuel + 1) levels ((decimal n).toList ++ rest) = some (.integer n, rest) := by
  have hle : twoTo 63 < twoTo 64 := by decide
  rw [toList_decimal]
  by_cases hn : n < 0
  · rw [if_pos hn, List.cons_append, value?_minus,
      unsigned?_toDigits true (by omega) hrest.endsDigits, afterWhole?_of_closes true _ hrest,
      integerValue, if_pos rfl, if_pos (by simp; omega)]
    rw [show -((n.natAbs : Nat) : Int) = n by omega]
  · have hread := unsigned?_toDigits false (n := n.natAbs) (by omega) hrest.endsDigits
    rw [if_neg hn]
    cases hchars : Nat.toDigits 10 n.natAbs with
    | nil => exact absurd hchars Nat.toDigits_ne_nil
    | cons c cs =>
      have hc : c.isDigit = true :=
        Nat.isDigit_of_mem_toDigits (by decide) (by decide) (hchars ▸ List.mem_cons_self)
      rw [hchars] at hread
      rw [List.cons_append, value?_digit fuel levels hc, ← List.cons_append, hread,
        afterWhole?_of_closes false _ hrest, integerValue, if_neg (by decide)]
      rw [show ((n.natAbs : Nat) : Int) = n by omega]

/-! ## What is written is read

The reader spends a step on every value and one on every item or member, and each of these takes a
character at least. So twice the length is enough for a value, and one more for what is in a list. -/

/-- So many steps read back everything that is short enough for them. -/
structure ReadsBack (fuel : Nat) : Prop where
  value : ∀ (j : Json) (levels : Nat) (rest : List Char), KeptWith FloatReads levels j →
    2 * j.chars.length ≤ fuel → Closes rest →
    value? fuel levels (j.chars ++ rest) = some (j.reread, rest)
  items : ∀ (item : Json) (items : List Json) (levels : Nat) (rest : List Char),
    KeptItemsWith FloatReads levels (item :: items) →
    2 * (itemChars (item :: items)).length + 1 ≤ fuel →
    items? fuel levels (itemChars (item :: items) ++ ']' :: rest)
      = some (rereadItems (item :: items), rest)
  members : ∀ (key : String) (value : Json) (members : List (String × Json)) (levels : Nat)
    (rest : List Char), KeptMembersWith FloatReads levels ((key, value) :: members) →
    2 * (memberChars ((key, value) :: members)).length + 1 ≤ fuel →
    members? fuel levels (memberChars ((key, value) :: members) ++ '\x7d' :: rest)
      = some (rereadMembers ((key, value) :: members), rest)

namespace ReadsBack

variable {fuel : Nat} (ih : ReadsBack fuel)

include ih

/-- With a step more, values. -/
theorem value_succ (j : Json) (levels : Nat) (rest : List Char) (hj : KeptWith FloatReads levels j)
    (hfuel : 2 * j.chars.length ≤ fuel + 1) (hrest : Closes rest) :
    value? (fuel + 1) levels (j.chars ++ rest) = some (j.reread, rest) := by
  cases j with
  | null => exact (value?_word fuel levels (.inl rfl) _).trans (word?_append "null" .null rest)
  | bool b =>
    cases b with
    | false =>
      exact (value?_word fuel levels (.inr (.inr rfl)) _).trans (word?_append "false" _ rest)
    | true =>
      exact (value?_word fuel levels (.inr (.inl rfl)) _).trans (word?_append "true" _ rest)
  | integer n =>
    obtain ⟨hlow, hhigh⟩ : -(twoTo 63 : Int) ≤ n ∧ n < twoTo 64 := hj
    exact value?_decimal fuel levels hlow hhigh hrest
  | float x => exact FloatReads.reads hj fuel levels rest hrest
  | string s =>
    simp only [chars, stringChars, List.cons_append, List.append_assoc, List.nil_append]
    rw [value?_quote, stringBody?_stringChars]
    simp [reread]
  | array items =>
    obtain ⟨hlevels, hitems⟩ : 1 < levels ∧ KeptItemsWith FloatReads (levels - 1) items := hj
    simp only [chars, List.length_cons, List.length_append, List.length_nil] at hfuel
    simp only [chars, List.cons_append, List.append_assoc, List.nil_append]
    cases items with
    | nil => exact value?_noItems fuel levels hlevels rest
    | cons item items =>
      obtain ⟨c, cs, hstart, hspace, hend⟩ := itemChars_eq_cons item items hitems.1
      have hread := ih.items item items (levels - 1) rest hitems (by omega)
      rw [hstart, List.cons_append] at hread ⊢
      rw [value?_items fuel levels hlevels hspace hend, hread]
      rfl
  | object members =>
    obtain ⟨hlevels, hmembers⟩ : 1 < levels ∧
        KeptMembersWith FloatReads (levels - 1) members := hj
    simp only [chars, List.length_cons, List.length_append, List.length_nil] at hfuel
    simp only [chars, List.cons_append, List.append_assoc, List.nil_append]
    cases members with
    | nil => exact value?_noMembers fuel levels hlevels rest
    | cons member members =>
      obtain ⟨key, value⟩ := member
      obtain ⟨cs, hstart⟩ := memberChars_eq_cons key value members
      have hread := ih.members key value members (levels - 1) rest hmembers (by omega)
      rw [hstart, List.cons_append] at hread ⊢
      rw [value?_members fuel levels hlevels, hread]
      rfl

/-- With a step more, the items of a list. -/
theorem items_succ (item : Json) (items : List Json) (levels : Nat) (rest : List Char)
    (hitems : KeptItemsWith FloatReads levels (item :: items))
    (hfuel : 2 * (itemChars (item :: items)).length + 1 ≤ fuel + 1) :
    items? (fuel + 1) levels (itemChars (item :: items) ++ ']' :: rest)
      = some (rereadItems (item :: items), rest) := by
  obtain ⟨hitem, hmore⟩ := hitems
  cases items with
  | nil =>
    rw [itemChars] at hfuel ⊢
    rw [items?, ih.value item levels _ hitem (by omega) (closes_cons rfl _)]
    simp [skipSpace_cons (show isSpace ']' = false from rfl), rereadItems]
  | cons next items =>
    simp only [itemChars, List.length_append, List.length_cons] at hfuel
    simp only [itemChars, List.append_assoc, List.cons_append]
    rw [items?, ih.value item levels _ hitem (by omega) (closes_cons rfl _)]
    simp only [skipSpace_cons (show isSpace ',' = false from rfl)]
    rw [ih.items next items levels rest hmore (by omega)]
    rfl

/-- With a step more, the members of an object. -/
theorem members_succ (key : String) (value : Json) (members : List (String × Json))
    (levels : Nat) (rest : List Char)
    (hmembers : KeptMembersWith FloatReads levels ((key, value) :: members))
    (hfuel : 2 * (memberChars ((key, value) :: members)).length + 1 ≤ fuel + 1) :
    members? (fuel + 1) levels (memberChars ((key, value) :: members) ++ '\x7d' :: rest)
      = some (rereadMembers ((key, value) :: members), rest) := by
  obtain ⟨hvalue, hmore⟩ := hmembers
  rw [members?]
  cases members with
  | nil =>
    simp only [memberChars, stringChars, List.length_append, List.length_cons] at hfuel
    simp only [memberChars, stringChars, List.append_assoc, List.cons_append, List.nil_append,
      skipSpace_cons (show isSpace '"' = false from rfl), stringBody?_stringChars,
      skipSpace_cons (show isSpace ':' = false from rfl)]
    rw [ih.value value levels _ hvalue (by omega) (closes_cons rfl _)]
    simp [skipSpace_cons (show isSpace '\x7d' = false from rfl), rereadMembers]
  | cons next members =>
    obtain ⟨nextKey, nextValue⟩ := next
    simp only [memberChars, stringChars, List.length_append, List.length_cons] at hfuel
    simp only [memberChars, stringChars, List.append_assoc, List.cons_append, List.nil_append,
      skipSpace_cons (show isSpace '"' = false from rfl), stringBody?_stringChars,
      skipSpace_cons (show isSpace ':' = false from rfl)]
    rw [ih.value value levels _ hvalue (by omega) (closes_cons rfl _)]
    simp only [skipSpace_cons (show isSpace ',' = false from rfl)]
    rw [ih.members nextKey nextValue members levels rest hmore (by omega)]
    simp [rereadMembers]

end ReadsBack

/-- Any number of steps reads back what is short enough. -/
theorem readsBack (fuel : Nat) : ReadsBack fuel := by
  induction fuel with
  | zero =>
    refine ⟨fun j levels rest hj hfuel _ => ?_, fun _ _ _ _ _ hfuel => ?_,
      fun _ _ _ _ _ _ hfuel => ?_⟩
    · obtain ⟨c, cs, hchars, -, -⟩ := chars_eq_cons j hj
      rw [hchars, List.length_cons] at hfuel
      omega
    · omega
    · omega
  | succ fuel ih => exact ⟨ih.value_succ, ih.items_succ, ih.members_succ⟩

/-- A text with blanks behind it is read as the value that it was written from, reread. -/
theorem read?_chars_append {j : Json} (hj : KeptWith FloatReads depthLimit j) {rest : List Char}
    (hclose : Closes rest) (hblank : skipSpace rest = []) :
    read? (String.ofList (j.chars ++ rest)) = some j.reread := by
  have hread := (readsBack (2 * (j.chars ++ rest).length + 1)).value j depthLimit rest hj
    (by rw [List.length_append]; omega) hclose
  rw [read?, String.toList_ofList, hread]
  exact if_pos (by rw [hblank]; rfl)

/-- The text of a value that it keeps is read as the value, the members of its objects in order. -/
theorem read?_render {j : Json} (hj : Kept depthLimit j) :
    read? j.render = some j.ordered := by
  rw [render, ← List.append_nil j.chars,
    read?_chars_append (hj.mono fun _ => False.elim) closes_nil rfl, reread_eq_ordered hj]

end ClusterFixture.Json
