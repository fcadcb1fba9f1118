/-
What the reader makes of a text.

Whatever is read has the members of its objects in order, and is not deeper than the limit. Its
numbers are integers of 64 bits and finite numbers; where every numeral of the text is an integer of
64 bits, they are these integers. The induction over the reader's steps is done once, for any
property of texts that what is left of a text has again.
-/

import ClusterFixture.Proofs.JsonMembers
import ClusterFixture.Proofs.JsonNumbers

set_option autoImplicit false

namespace ClusterFixture.Json

open ClusterFixture.Number

/-! ## Values that are read -/

/-- Whether a value may be read: a text keeps it but for the numbers that are no integers, and its
members are in order. -/
def IsRead (floats : Binary64 → Prop) (levels : Nat) (j : Json) : Prop :=
  KeptWith floats levels j ∧ j.ordered = j

variable {floats : Binary64 → Prop} {levels : Nat}

theorem keptItemsWith_iff {items : List Json} :
    KeptItemsWith floats levels items ↔ ∀ item ∈ items, KeptWith floats levels item := by
  induction items with
  | nil => simp [KeptItemsWith]
  | cons item rest ih => rw [KeptItemsWith, List.forall_mem_cons, ih]

theorem keptMembersWith_iff {members : List (String × Json)} :
    KeptMembersWith floats levels members ↔ ∀ m ∈ members, KeptWith floats levels m.2 := by
  induction members with
  | nil => simp [KeptMembersWith]
  | cons m rest ih => rw [KeptMembersWith, List.forall_mem_cons, ih]

theorem orderedItems_eq_map (items : List Json) : orderedItems items = items.map ordered := by
  induction items with
  | nil => rfl
  | cons item rest ih => rw [orderedItems, ih, List.map_cons]

theorem orderedMembers_eq_map (members : List (String × Json)) :
    orderedMembers members = members.map fun m => (m.1, m.2.ordered) := by
  induction members with
  | nil => rfl
  | cons m rest ih => rw [orderedMembers, ih, List.map_cons]

theorem isRead_array (hlevels : 1 < levels) {items : List Json}
    (h : ∀ item ∈ items, IsRead floats (levels - 1) item) :
    IsRead floats levels (.array items) := by
  refine ⟨⟨hlevels, keptItemsWith_iff.mpr fun item hitem => (h item hitem).1⟩, ?_⟩
  rw [ordered, orderedItems_eq_map, List.map_congr_left fun item hitem => (h item hitem).2,
    List.map_id']

theorem isRead_object_of_inOrder (hlevels : 1 < levels) {members : List (String × Json)}
    (horder : InOrder members) (h : ∀ m ∈ members, IsRead floats (levels - 1) m.2) :
    IsRead floats levels (.object members) := by
  refine ⟨⟨hlevels, keptMembersWith_iff.mpr fun m hm => (h m hm).1⟩, ?_⟩
  have hsame : ∀ m ∈ members, (m.1, m.2.ordered) = m := fun m hm => by rw [(h m hm).2]
  rw [ordered, orderedMembers_eq_map, List.map_congr_left hsame, List.map_id', ofMembers_eq,
    horder.membersOf]

theorem isRead_ofMembers (hlevels : 1 < levels) {raw : List (String × Json)}
    (h : ∀ m ∈ raw, IsRead floats (levels - 1) m.2) : IsRead floats levels (ofMembers raw) :=
  isRead_object_of_inOrder hlevels (inOrder_membersOf raw) fun m hm => h m (mem_of_mem_membersOf hm)

/-- The members of an object that may be read are in order, and so is each of them. -/
theorem IsRead.members {members : List (String × Json)}
    (h : IsRead floats levels (.object members)) :
    InOrder members ∧ ∀ m ∈ members, IsRead floats (levels - 1) m.2 := by
  obtain ⟨⟨-, hkept⟩, hordered⟩ := h
  rw [ordered, orderedMembers_eq_map, ofMembers_eq] at hordered
  have hmembers := Json.object.inj hordered
  have horder : InOrder members := hmembers ▸ inOrder_membersOf _
  have hmap : InOrder (members.map fun m => (m.1, m.2.ordered)) := List.pairwise_map.mpr horder
  rw [hmap.membersOf] at hmembers
  refine ⟨horder, fun m hm => ⟨keptMembersWith_iff.mp hkept m hm, ?_⟩⟩
  have hsame := List.map_inj_left.mp (hmembers.trans (List.map_id' members).symm) m hm
  exact (Prod.mk.inj hsame).2

/-- One more text among the members. -/
theorem IsRead.insert {members : List (String × Json)} (h : IsRead floats levels (.object members))
    (key text : String) : IsRead floats levels (.object (insert key (.string text) members)) := by
  obtain ⟨horder, hmembers⟩ := h.members
  refine isRead_object_of_inOrder h.1.1 (horder.insert key _) fun m hm => ?_
  rcases mem_insert hm with rfl | hm
  · exact ⟨trivial, rfl⟩
  · exact hmembers m hm

theorem rereadMembers_eq_map (members : List (String × Json)) :
    rereadMembers members = members.map fun m => (m.1, m.2.reread) := by
  induction members with
  | nil => rfl
  | cons m rest ih => rw [rereadMembers, ih, List.map_cons]

/-- An object with its members in order is reread member by member. -/
theorem reread_object {members : List (String × Json)} (h : InOrder members) :
    (Json.object members).reread = .object (members.map fun m => (m.1, m.2.reread)) := by
  have hmap : InOrder (members.map fun m => (m.1, m.2.reread)) := List.pairwise_map.mpr h
  rw [reread, rereadMembers_eq_map, ofMembers_eq, hmap.membersOf]

/-- Whether a value is a number that may be read. -/
def IsNumber (floats : Binary64 → Prop) : Json → Prop
  | .integer n => -(twoTo 63 : Int) ≤ n ∧ n < twoTo 64
  | .float x => floats x
  | _ => False

theorem IsNumber.isRead {j : Json} (h : IsNumber floats j) : IsRead floats levels j := by
  cases j with
  | integer n => exact ⟨h, rfl⟩
  | float x => exact ⟨h, rfl⟩
  | null => exact h.elim
  | bool b => exact h.elim
  | string s => exact h.elim
  | array items => exact h.elim
  | object members => exact h.elim

/-! ## The steps of the reader -/

/-- The characters that stand between values. -/
def isMark (c : Char) : Bool :=
  c = '[' || c = ']' || c = '\x7b' || c = '\x7d' || c = ',' || c = ':'

/-- The words that are values. -/
def words : List (String × Json) := [("null", .null), ("true", .bool true), ("false", .bool false)]

/-- What one step of the reader reads at the start of a text, and what it leaves. -/
inductive ValueStep (fuel levels : Nat) : List Char → Json → List Char → Prop
  | quoted {cs s rest} : stringBody? cs = some (s, rest) →
      ValueStep fuel levels ('"' :: cs) (.string (String.ofList s)) rest
  | noItems {cs rest} : 1 < levels → skipSpace cs = ']' :: rest →
      ValueStep fuel levels ('[' :: cs) (.array []) rest
  | items {cs items rest} : 1 < levels →
      items? fuel (levels - 1) (skipSpace cs) = some (items, rest) →
      ValueStep fuel levels ('[' :: cs) (.array items) rest
  | noMembers {cs rest} : 1 < levels → skipSpace cs = '\x7d' :: rest →
      ValueStep fuel levels ('\x7b' :: cs) (ofMembers []) rest
  | members {cs raw rest} : 1 < levels → (∀ left, skipSpace cs ≠ '\x7d' :: left) →
      members? fuel (levels - 1) (skipSpace cs) = some (raw, rest) →
      ValueStep fuel levels ('\x7b' :: cs) (ofMembers raw) rest
  | word {word value rest} : (word, value) ∈ words →
      ValueStep fuel levels (word.toList ++ rest) value rest
  | negative {cs j rest} : unsigned? true cs = some (j, rest) →
      ValueStep fuel levels ('-' :: cs) j rest
  | positive {cs j rest} : unsigned? false cs = some (j, rest) → ValueStep fuel levels cs j rest

theorem isRead_of_mem_words {m : String × Json} (h : m ∈ words) : IsRead floats levels m.2 := by
  simp only [words, List.mem_cons, List.not_mem_nil, or_false] at h
  rcases h with rfl | rfl | rfl <;> exact ⟨trivial, rfl⟩

theorem eq_append_of_word? {word : String} {value j : Json} {cs rest : List Char}
    (h : word? word value cs = some (j, rest)) : cs = word.toList ++ rest ∧ j = value := by
  rw [word?] at h
  split at h
  · next hprefix =>
    cases h
    obtain ⟨rest, rfl⟩ := List.isPrefixOf_iff_prefix.mp hprefix
    rw [← String.length_toList, List.drop_left]
    exact ⟨rfl, rfl⟩
  · cases h

/-- These are all steps. -/
theorem value?_step {fuel levels : Nat} {text : List Char} {j : Json} {rest : List Char}
    (h : value? (fuel + 1) levels text = some (j, rest)) :
    ValueStep fuel levels (skipSpace text) j rest := by
  rw [value?] at h
  cases hskip : skipSpace text with
  | nil =>
    rw [hskip] at h
    cases h
  | cons c cs =>
    rw [hskip] at h
    dsimp only at h
    split at h
    · next hc =>
      obtain ⟨⟨s, left⟩, hbody, heq⟩ := Option.map_eq_some_iff.mp h
      cases heq
      exact hc ▸ .quoted hbody
    split at h
    · next hc =>
      split at h
      · cases h
      next hlevels =>
      split at h
      · next left hclose =>
        cases h
        exact hc ▸ .noItems (by omega) hclose
      · obtain ⟨⟨items, left⟩, hitems, heq⟩ := Option.map_eq_some_iff.mp h
        cases heq
        exact hc ▸ .items (by omega) hitems
    split at h
    · next hc =>
      split at h
      · cases h
      next hlevels =>
      split at h
      · next left hclose =>
        cases h
        exact hc ▸ .noMembers (by omega) hclose
      · next hopen =>
        obtain ⟨⟨raw, left⟩, hmembers, heq⟩ := Option.map_eq_some_iff.mp h
        cases heq
        exact hc ▸ .members (by omega) hopen hmembers
    split at h
    · obtain ⟨htext, rfl⟩ := eq_append_of_word? h
      exact htext ▸ .word (by simp [words])
    split at h
    · obtain ⟨htext, rfl⟩ := eq_append_of_word? h
      exact htext ▸ .word (by simp [words])
    split at h
    · obtain ⟨htext, rfl⟩ := eq_append_of_word? h
      exact htext ▸ .word (by simp [words])
    split at h
    · next hc => exact hc ▸ .negative h
    · exact .positive h

/-- A property of texts that what the reader leaves of a text has again, and by which the numbers
that it reads are of a kind. -/
structure Hereditary (ok : List Char → Prop) (floats : Binary64 → Prop) : Prop where
  space : ∀ {cs}, ok cs → ok (skipSpace cs)
  mark : ∀ {c cs}, isMark c = true → ok (c :: cs) → ok cs
  quoted : ∀ {cs s rest}, ok ('"' :: cs) → stringBody? cs = some (s, rest) → ok rest
  word : ∀ {word value cs}, (word, value) ∈ words → ok (word.toList ++ cs) → ok cs
  number : ∀ neg {cs j rest}, ok (if neg then '-' :: cs else cs) →
    unsigned? neg cs = some (j, rest) → IsNumber floats j ∧ ok rest

namespace Hereditary

variable {ok : List Char → Prop} (hok : Hereditary ok floats)

include hok

/-- What follows a mark and blanks. -/
theorem afterMark {c : Char} {cs : List Char} (hc : isMark c = true) (htext : ok (c :: cs)) :
    ok (skipSpace cs) :=
  hok.space (hok.mark hc htext)

omit hok in
/-- What so many steps read of such a text. -/
structure Reads (ok : List Char → Prop) (floats : Binary64 → Prop) (fuel : Nat) : Prop where
  value : ∀ {levels text j rest}, ok text → value? fuel levels text = some (j, rest) →
    IsRead floats levels j ∧ ok rest
  items : ∀ {levels text items rest}, ok text → items? fuel levels text = some (items, rest) →
    (∀ item ∈ items, IsRead floats levels item) ∧ ok rest
  members : ∀ {levels text raw rest}, ok text → members? fuel levels text = some (raw, rest) →
    (∀ m ∈ raw, IsRead floats levels m.2) ∧ ok rest

variable {fuel : Nat} (ih : Reads ok floats fuel)

include ih

/-- With a step more, values. -/
theorem value_succ {text : List Char} {j : Json} {rest : List Char} (htext : ok text)
    (h : value? (fuel + 1) levels text = some (j, rest)) : IsRead floats levels j ∧ ok rest := by
  have hstart := hok.space htext
  have hstep := value?_step h
  generalize skipSpace text = start at hstart hstep
  cases hstep with
  | quoted hbody => exact ⟨⟨trivial, rfl⟩, hok.quoted hstart hbody⟩
  | noItems hlevels hclose =>
    exact ⟨isRead_array hlevels (List.forall_mem_nil _),
      hok.mark rfl (hclose ▸ hok.afterMark rfl hstart)⟩
  | items hlevels hitems =>
    obtain ⟨hread, hleft⟩ := ih.items (hok.afterMark rfl hstart) hitems
    exact ⟨isRead_array hlevels hread, hleft⟩
  | noMembers hlevels hclose =>
    exact ⟨isRead_ofMembers hlevels (List.forall_mem_nil _),
      hok.mark rfl (hclose ▸ hok.afterMark rfl hstart)⟩
  | members hlevels _ hmembers =>
    obtain ⟨hread, hleft⟩ := ih.members (hok.afterMark rfl hstart) hmembers
    exact ⟨isRead_ofMembers hlevels hread, hleft⟩
  | word hword => exact ⟨isRead_of_mem_words hword, hok.word hword hstart⟩
  | negative hnumber =>
    obtain ⟨hread, hleft⟩ := hok.number true hstart hnumber
    exact ⟨hread.isRead, hleft⟩
  | positive hnumber =>
    obtain ⟨hread, hleft⟩ := hok.number false hstart hnumber
    exact ⟨hread.isRead, hleft⟩

/-- With a step more, the items of a list. -/
theorem items_succ {text : List Char} {items : List Json} {rest : List Char} (htext : ok text)
    (h : items? (fuel + 1) levels text = some (items, rest)) :
    (∀ item ∈ items, IsRead floats levels item) ∧ ok rest := by
  rw [items?] at h
  cases hvalue : value? fuel levels text with
  | none =>
    rw [hvalue] at h
    cases h
  | some read =>
    obtain ⟨item, after⟩ := read
    obtain ⟨hitem, hafter⟩ := ih.value htext hvalue
    have hnext := hok.space hafter
    rw [hvalue] at h
    dsimp only at h
    split at h
    · next more heq =>
      obtain ⟨⟨items, left⟩, hmore, heq'⟩ := Option.map_eq_some_iff.mp h
      cases heq'
      obtain ⟨hitems, hleft⟩ := ih.items (hok.mark rfl (heq ▸ hnext)) hmore
      exact ⟨List.forall_mem_cons.mpr ⟨hitem, hitems⟩, hleft⟩
    · next left heq =>
      cases h
      exact ⟨List.forall_mem_singleton.mpr hitem, hok.mark rfl (heq ▸ hnext)⟩
    · cases h

/-- With a step more, the members of an object. -/
theorem members_succ {text : List Char} {raw : List (String × Json)} {rest : List Char}
    (htext : ok text) (h : members? (fuel + 1) levels text = some (raw, rest)) :
    (∀ m ∈ raw, IsRead floats levels m.2) ∧ ok rest := by
  have hstart := hok.space htext
  rw [members?] at h
  split at h
  case h_2 => cases h
  next cs hquote =>
  split at h
  case h_1 => cases h
  next key after hkey =>
  have hafter := hok.space (hok.quoted (hquote ▸ hstart) hkey)
  split at h
  case h_2 => cases h
  next more hcolon =>
  split at h
  case h_1 => cases h
  next value left hvalue =>
  obtain ⟨hread, hleft⟩ := ih.value (hok.mark rfl (hcolon ▸ hafter)) hvalue
  have hnext := hok.space hleft
  split at h
  · next more heq =>
    obtain ⟨⟨raw, left⟩, hmore, heq'⟩ := Option.map_eq_some_iff.mp h
    cases heq'
    obtain ⟨hmembers, hrest⟩ := ih.members (hok.mark rfl (heq ▸ hnext)) hmore
    exact ⟨List.forall_mem_cons.mpr ⟨hread, hmembers⟩, hrest⟩
  · next left heq =>
    cases h
    exact ⟨List.forall_mem_singleton.mpr hread, hok.mark rfl (heq ▸ hnext)⟩
  · cases h

omit ih

/-- **What is read of such a text may be read**, and what is left of it is such a text. -/
theorem reads (fuel : Nat) : Reads ok floats fuel := by
  -- The induction is on the steps: what a value holds is read with a step less.
  induction fuel with
  | zero => exact ⟨fun _ h => (by cases h), fun _ h => (by cases h), fun _ h => (by cases h)⟩
  | succ fuel ih => exact ⟨hok.value_succ ih, hok.items_succ ih, hok.members_succ ih⟩

end Hereditary

/-! ## Numbers are of 64 bits or finite -/

open Binary64 (IsFinite)

/-- Digits are taken up to the limit only. -/
theorem takeSignificand_le (cs : List Char) {value : Nat} (taken : Nat)
    (h : value ≤ significandLimit) : (takeSignificand value taken cs).1 ≤ significandLimit := by
  induction cs generalizing value taken with
  | nil => exact h
  | cons c rest ih =>
    rw [takeSignificand]
    split
    · split
      · next hfits => exact ih _ hfits
      · exact h
    · exact h

theorem isFinite_neg {x : Binary64} (h : IsFinite x) : IsFinite x.neg := by
  cases x with
  | finite s m e => exact h
  | infinite s => exact h
  | nan => exact h

section

variable {neg : Bool} {s : Nat} (hs : s ≤ significandLimit) {j : Json} {cs rest : List Char}

include hs

theorem isNumber_floatOfParts? {e : Int} (h : floatOfParts? neg s e = some j) :
    IsNumber IsFinite j := by
  obtain ⟨x, hscale, rfl⟩ := Option.map_eq_some_iff.mp h
  have hx := Binary64.scaleByTen_isFinite (Binary64.isSmall_ofRatio hs) hscale
  cases neg with
  | true => exact isFinite_neg hx
  | false => exact hx

theorem isNumber_integerValue : IsNumber IsFinite (integerValue neg s) := by
  have hlimit : significandLimit < twoTo 64 := by decide
  have hle : twoTo 63 ≤ twoTo 64 := by decide
  rw [integerValue]
  split
  · split
    · next hrange =>
      simp only [Bool.and_eq_true, decide_eq_true_eq] at hrange
      exact ⟨by omega, by omega⟩
    · exact isFinite_neg (Binary64.isSmall_ofRatio hs).isFinite
  · exact ⟨by omega, by omega⟩

theorem isNumber_scaled? {e : Int} (h : scaled? neg s e cs = some (j, rest)) :
    IsNumber IsFinite j := by
  unfold scaled? at h
  split at h
  · split at h
    · obtain ⟨⟨f, after⟩, -, h⟩ := Option.bind_eq_some_iff.mp h
      obtain ⟨j', hparts, h⟩ := Option.bind_eq_some_iff.mp h
      cases h
      exact isNumber_floatOfParts? hs hparts
    · obtain ⟨j', hparts, h⟩ := Option.map_eq_some_iff.mp h
      cases h
      exact isNumber_floatOfParts? hs hparts
  · obtain ⟨j', hparts, h⟩ := Option.map_eq_some_iff.mp h
    cases h
    exact isNumber_floatOfParts? hs hparts

theorem isNumber_afterWhole? {dropped : Nat} (h : afterWhole? neg s dropped cs = some (j, rest)) :
    IsNumber IsFinite j := by
  unfold afterWhole? at h
  split at h
  · next more =>
    dsimp only at h
    split at h
    · cases h
    · exact isNumber_scaled? (takeSignificand_le more 0 hs) h
  · exact isNumber_scaled? hs h
  · exact isNumber_scaled? hs h
  · split at h
    · cases h
      exact isNumber_integerValue hs
    · exact isNumber_scaled? hs h

end

/-- A number that is read is an integer of 64 bits or finite. -/
theorem isNumber_unsigned? {neg : Bool} {cs : List Char} {j : Json} {rest : List Char}
    (h : unsigned? neg cs = some (j, rest)) : IsNumber IsFinite j := by
  unfold unsigned? at h
  split at h
  · cases h
  split at h
  · split at h
    · cases h
    · exact isNumber_afterWhole? (Nat.zero_le _) h
  split at h
  · dsimp only at h
    exact isNumber_afterWhole? (takeSignificand_le _ 0 (Nat.zero_le _)) h
  · cases h

theorem hereditary_isFinite : Hereditary (fun _ => True) IsFinite where
  space _ := trivial
  mark _ _ := trivial
  quoted _ _ := trivial
  word _ _ := trivial
  number _ := fun _ h => ⟨isNumber_unsigned? h, trivial⟩

/-! ## Numerals of a text -/

/-- What follows the quote that closes a text, read after the opening one. -/
def afterQuote : List Char → List Char
  | [] => []
  | '\\' :: _ :: rest => afterQuote rest
  | '"' :: rest => rest
  | _ :: rest => afterQuote rest

theorem length_afterQuote_le (cs : List Char) : (afterQuote cs).length ≤ cs.length := by
  fun_induction afterQuote cs with
  | case1 => exact Nat.le_refl _
  | case2 _ rest ih => simp only [List.length_cons]; omega
  | case3 rest => simp only [List.length_cons]; omega
  | case4 _ rest _ _ ih => simp only [List.length_cons]; omega

/-- The numerals of a text outside quotes: what begins with a sign or a digit, up to the first
character that numbers are not made of. -/
def numerals : List Char → List (List Char)
  | [] => []
  | c :: rest =>
    if c = '"' then numerals (afterQuote rest)
    else if c = '-' || c.isDigit then
      (c :: rest).takeWhile isNumeralChar :: numerals (rest.dropWhile isNumeralChar)
    else numerals rest
termination_by cs => cs.length
decreasing_by
  · exact Nat.lt_succ_of_le (length_afterQuote_le rest)
  · exact Nat.lt_succ_of_le (List.dropWhile_suffix _).length_le
  · exact Nat.lt_succ_self _

/-- Whether a numeral is the decimal one of an integer of 64 bits, signed or not: it has no needless
zero and is not zero with a sign. -/
def IsIntegerLiteral (w : List Char) : Prop :=
  ∃ n : Int, -(twoTo 63 : Int) ≤ n ∧ n < twoTo 64 ∧ w = (decimal n).toList

/-- Whether all numerals of a text are integers of 64 bits. -/
def HasIntegersOnly (cs : List Char) : Prop := ∀ w ∈ numerals cs, IsIntegerLiteral w

/-! ### Steps over a text -/

theorem numerals_of_plain {c : Char} (hquote : c ≠ '"') (hminus : c ≠ '-')
    (hdigit : c.isDigit = false) (cs : List Char) : numerals (c :: cs) = numerals cs := by
  rw [numerals, if_neg hquote, if_neg (by simp [hminus, hdigit])]

theorem numerals_quote (cs : List Char) : numerals ('"' :: cs) = numerals (afterQuote cs) := by
  rw [numerals, if_pos rfl]

/-- A character that begins a numeral is one of a numeral. -/
theorem numerals_of_start {c : Char} (h : c = '-' ∨ c.isDigit = true) (cs : List Char) :
    numerals (c :: cs)
      = (c :: cs).takeWhile isNumeralChar :: numerals ((c :: cs).dropWhile isNumeralChar) := by
  have hnumeral : isNumeralChar c = true := by
    rcases h with rfl | h
    · rfl
    · exact isNumeralChar_of_isDigit h
  have hquote : c ≠ '"' := by
    rintro rfl
    cases hnumeral
  rw [numerals, if_neg hquote, if_pos (by simpa using h), List.dropWhile_cons_of_pos hnumeral]

theorem numerals_skipSpace (cs : List Char) : numerals (skipSpace cs) = numerals cs := by
  induction cs with
  | nil => rfl
  | cons c rest ih =>
    by_cases hc : isSpace c = true
    · have hplain : c ≠ '"' ∧ c ≠ '-' ∧ c.isDigit = false := by
        simp only [isSpace, Bool.or_eq_true, decide_eq_true_eq] at hc
        rcases hc with ((rfl | rfl) | rfl) | rfl <;> decide
      rw [numerals_of_plain hplain.1 hplain.2.1 hplain.2.2, skipSpace,
        List.dropWhile_cons_of_pos hc]
      exact ih
    · rw [skipSpace, List.dropWhile_cons_of_neg hc]

theorem numerals_mark {c : Char} (hc : isMark c = true) (cs : List Char) :
    numerals (c :: cs) = numerals cs := by
  have hplain : c ≠ '"' ∧ c ≠ '-' ∧ c.isDigit = false := by
    simp only [isMark, Bool.or_eq_true, decide_eq_true_eq] at hc
    rcases hc with ((((rfl | rfl) | rfl) | rfl) | rfl) | rfl <;> decide
  exact numerals_of_plain hplain.1 hplain.2.1 hplain.2.2 cs

theorem numerals_word {word : String} {value : Json} (hword : (word, value) ∈ words)
    (cs : List Char) : numerals (word.toList ++ cs) = numerals cs := by
  have hall : (words.all fun m => m.1.toList.all fun c => c != '"' && (c != '-' && !c.isDigit))
      = true := by
    decide
  have hplain : ∀ c ∈ word.toList, c ≠ '"' ∧ c ≠ '-' ∧ c.isDigit = false := by
    simpa using List.all_eq_true.mp hall _ hword
  generalize word.toList = chars at hplain
  induction chars with
  | nil => rfl
  | cons c rest ih =>
    obtain ⟨⟨hquote, hminus, hdigit⟩, hrest⟩ := List.forall_mem_cons.mp hplain
    rw [List.cons_append, numerals_of_plain hquote hminus hdigit, ih hrest]

/-! ### Quotes -/

theorem afterQuote_of_plain {c : Char} (hquote : c ≠ '"') (hslash : c ≠ '\\') (cs : List Char) :
    afterQuote (c :: cs) = afterQuote cs := by
  rw [afterQuote]
  · exact fun _ _ h => absurd h hslash
  · exact hquote

/-- Only digits write a number. -/
theorem isSome_digitIn?_of_natIn? {base n : Nat} {cs : List Char} (h : natIn? base cs = some n) :
    ∀ c ∈ cs, (digitIn? base c).isSome = true := by
  have hfold : ∀ (cs : List Char) (start : Option Nat),
      (cs.foldl (fun value? c => do return (← value?) * base + (← digitIn? base c)) start).isSome
        = true → start.isSome = true ∧ ∀ c ∈ cs, (digitIn? base c).isSome = true := by
    intro cs
    induction cs with
    | nil => exact fun start h => ⟨h, List.forall_mem_nil _⟩
    | cons c rest ih =>
      intro start h
      obtain ⟨hnext, hrest⟩ := ih _ h
      cases start with
      | none => cases hnext
      | some value =>
        refine ⟨rfl, List.forall_mem_cons.mpr ⟨?_, hrest⟩⟩
        obtain ⟨next, hnext⟩ := Option.isSome_iff_exists.mp hnext
        obtain ⟨_, _, hdigits⟩ := Option.bind_eq_some_iff.mp hnext
        obtain ⟨d, hdigit, -⟩ := Option.bind_eq_some_iff.mp hdigits
        rw [hdigit]
        rfl
  exact (hfold cs _ (Option.isSome_iff_exists.mpr ⟨n, h⟩)).2

/-- Hexadecimal digits close no text. -/
theorem afterQuote_fourDigits? {cs rest : List Char} {n : Nat}
    (h : fourDigits? cs = some (n, rest)) : afterQuote cs = afterQuote rest := by
  have hplain : ∀ {c : Char}, (digitIn? 16 c).isSome = true → ∀ cs : List Char,
      afterQuote (c :: cs) = afterQuote cs := by
    intro c hc
    refine afterQuote_of_plain ?_ ?_
    · rintro rfl
      cases hc
    · rintro rfl
      cases hc
  unfold fourDigits? at h
  split at h
  · next a b c d more =>
    obtain ⟨_, hdigits, heq⟩ := Option.map_eq_some_iff.mp h
    cases heq
    have hall := isSome_digitIn?_of_natIn? hdigits
    simp only [List.forall_mem_cons] at hall
    obtain ⟨ha, hb, hc, hd, -⟩ := hall
    rw [hplain ha, hplain hb, hplain hc, hplain hd]
  · cases h

theorem afterQuote_slash (c : Char) (cs : List Char) :
    afterQuote ('\\' :: c :: cs) = afterQuote cs := by
  rw [afterQuote]

theorem afterQuote_codePoint? {cs rest : List Char} {c : Char}
    (h : codePoint? cs = some (c, rest)) : afterQuote cs = afterQuote rest := by
  unfold codePoint? at h
  split at h
  · cases h
  next n left hdigits =>
  rw [afterQuote_fourDigits? hdigits]
  split at h
  · cases h
  split at h
  · split at h
    · next more =>
      split at h
      · cases h
      next low left' hdigits' =>
      split at h
      · simp only [Option.some.injEq, Prod.mk.injEq] at h
        rw [afterQuote_slash, afterQuote_fourDigits? hdigits', h.2]
      · cases h
    · cases h
  · cases h
    rfl

/-- Nor does what a backslash escapes. -/
theorem afterQuote_escape? {cs rest : List Char} {c : Char} (h : escape? cs = some (c, rest)) :
    afterQuote ('\\' :: cs) = afterQuote rest := by
  cases cs with
  | nil => cases h
  | cons d cs =>
    rw [afterQuote_slash]
    by_cases hcode : d = 'u'
    · rw [hcode] at h
      exact afterQuote_codePoint? h
    · have hrest : cs = rest := by
        rw [escape?, if_neg hcode] at h
        split_ifs at h <;> cases h <;> rfl
      rw [hrest]

/-- Where a text is read, what follows it is what follows the quote that closes it. -/
theorem afterQuote_of_stringBody? {cs s rest : List Char} (h : stringBody? cs = some (s, rest)) :
    afterQuote cs = rest := by
  -- Both go from character to character, but an escape is one step of the reader, and here it is
  -- one step for the backslash with the next character and one for each digit of a code point.
  fun_induction stringBody? cs generalizing s with
  | case1 => cases h
  | case2 cs =>
    cases h
    rfl
  | case3 => cases h
  | case4 cs c after hescape _ _ ih =>
    obtain ⟨⟨s', left⟩, hbody, heq⟩ := Option.map_eq_some_iff.mp h
    cases heq
    rw [afterQuote_escape? hescape]
    exact ih hbody
  | case5 => cases h
  | case6 c cs hquote hslash hlow ih =>
    obtain ⟨⟨s', left⟩, hbody, heq⟩ := Option.map_eq_some_iff.mp h
    cases heq
    rw [afterQuote_of_plain hquote hslash]
    exact ih hbody

/-- A digit inside quotes is none of the text. -/
example : numerals "[-1,\"2\\\"3\",4.5]".toList = [['-', '1'], ['4', '.', '5']] := by
  decide +kernel

/-! ### Numerals that are read -/

theorem closes_dropWhile (cs : List Char) : Closes (cs.dropWhile isNumeralChar) := by
  intro c hc
  have hhead := List.head?_dropWhile_not isNumeralChar cs
  rw [Option.mem_def.mp hc] at hhead
  exact hhead

/-- The numeral that a text begins with is read as its integer. -/
theorem exists_integer {c : Char} (hstart : c = '-' ∨ c.isDigit = true) {cs : List Char}
    (hok : HasIntegersOnly (c :: cs)) (fuel levels : Nat) :
    ∃ n rest, value? (fuel + 1) levels (c :: cs) = some (.integer n, rest) ∧
      (-(twoTo 63 : Int) ≤ n ∧ n < twoTo 64) ∧ HasIntegersOnly rest := by
  have hnumerals := numerals_of_start hstart cs
  obtain ⟨n, hlow, hhigh, hword⟩ :=
    hok ((c :: cs).takeWhile isNumeralChar) (hnumerals ▸ List.mem_cons_self)
  have hread := value?_decimal fuel levels hlow hhigh (closes_dropWhile (c :: cs))
  rw [← hword, List.takeWhile_append_dropWhile] at hread
  exact ⟨n, _, hread, ⟨hlow, hhigh⟩,
    fun w hw => hok w (hnumerals ▸ List.mem_cons_of_mem _ hw)⟩

/-- What is read begins with a digit. -/
theorem exists_digit_of_unsigned? {neg : Bool} {cs : List Char} {j : Json} {rest : List Char}
    (h : unsigned? neg cs = some (j, rest)) : ∃ c more, cs = c :: more ∧ c.isDigit = true := by
  unfold unsigned? at h
  split at h
  · cases h
  next c more =>
  refine ⟨c, more, rfl, ?_⟩
  split at h
  · next hzero =>
    rw [hzero]
    rfl
  split at h
  · assumption
  · cases h

theorem hereditary_hasIntegersOnly : Hereditary HasIntegersOnly (fun _ => False) where
  space h := by rwa [HasIntegersOnly, numerals_skipSpace]
  mark hc h := by rwa [HasIntegersOnly, numerals_mark hc] at h
  quoted h hbody := by rwa [HasIntegersOnly, numerals_quote, afterQuote_of_stringBody? hbody] at h
  word hword h := by rwa [HasIntegersOnly, numerals_word hword] at h
  number neg := by
    intro cs j rest hok h
    have hread : ∃ c more, (if neg then '-' :: cs else cs) = c :: more ∧
        (c = '-' ∨ c.isDigit = true) ∧ value? 1 1 (c :: more) = unsigned? neg cs := by
      cases neg with
      | true => exact ⟨'-', cs, rfl, .inl rfl, value?_minus 0 1 cs⟩
      | false =>
        obtain ⟨c, more, rfl, hc⟩ := exists_digit_of_unsigned? h
        exact ⟨c, more, rfl, .inr hc, value?_digit 0 1 hc more⟩
    obtain ⟨c, more, htext, hstart, hvalue⟩ := hread
    rw [htext] at hok
    obtain ⟨n, left, hinteger, hrange, hleft⟩ := exists_integer hstart hok 0 1
    rw [hvalue, h] at hinteger
    cases hinteger
    exact ⟨hrange, hleft⟩

/-! ## Texts that are read -/

/-- What is read of a text with a property that passes to what is left of it. -/
theorem Hereditary.isRead {ok : List Char → Prop} {floats : Binary64 → Prop}
    (hok : Hereditary ok floats) {s : String} {j : Json} (hs : ok s.toList)
    (h : read? s = some j) : IsRead floats depthLimit j := by
  rw [read?] at h
  split at h
  · next j' rest hvalue =>
    split at h
    · cases h
      exact ((hok.reads _).value hs hvalue).1
    · cases h
  · cases h

/-- The members of an object as they stand in its text, repeated keys included. -/
def rawMembers? (s : String) : Option (List (String × Json)) :=
  match skipSpace s.toList with
  | '\x7b' :: rest =>
    match skipSpace rest with
    | '\x7d' :: _ => some []
    | start => (members? (2 * s.toList.length) (depthLimit - 1) start).map Prod.fst
  | _ => none

/-- An object is read from members of its text. -/
theorem exists_rawMembers? {s : String} {members : List (String × Json)}
    (h : read? s = some (.object members)) :
    ∃ raw, rawMembers? s = some raw ∧ members = membersOf raw := by
  have hvalue : ∃ rest, value? (2 * s.toList.length + 1) depthLimit s.toList
      = some (.object members, rest) := by
    rw [read?] at h
    split at h
    · next rest hvalue =>
      split at h
      · cases h
        exact ⟨rest, hvalue⟩
      · cases h
    · cases h
  obtain ⟨rest, hvalue⟩ := hvalue
  have hstep := value?_step hvalue
  -- Only a step that reads a brace gives an object.
  generalize hskip : skipSpace s.toList = start at hstep
  cases hstep with
  | noMembers _ hclose =>
    rw [rawMembers?, hskip]
    exact ⟨[], by simp only [hclose], rfl⟩
  | members _ hopen hraw =>
    refine ⟨_, ?_, rfl⟩
    rw [rawMembers?, hskip]
    split
    · next more heq =>
      cases heq
      split
      · next left hclose => exact (hopen left hclose).elim
      · rw [hraw]
        rfl
    · next hother => exact absurd rfl (hother _)
  | word hword => simp [words] at hword
  | negative hnumber => exact (isNumber_unsigned? hnumber).elim
  | positive hnumber => exact (isNumber_unsigned? hnumber).elim

end ClusterFixture.Json
