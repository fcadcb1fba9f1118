/-
Which addresses are replaced in a text.

An address can begin at several places of one run of numbers and can end at several places of its
port. The one that counts is the leftmost, and of those that begin there the longest. A text is cut
at this one, and what follows is cut again: `Segmented` says so of the parts. The reader that
replaces addresses cuts just like that. Only its first step needs an argument: a run of digits in
front of a point or a colon is always read to its end, so what is read at a place is the longest
address there, and where none is read there is none.
-/

import ClusterFixture.Text.Address
import Mathlib.Data.List.TakeWhile

set_option autoImplicit false

namespace ClusterFixture.Text

/-! ## Addresses -/

/-- A run of decimal digits. -/
structure IsDigits (cs : List Char) : Prop where
  nonempty : cs ≠ []
  digits : ∀ c ∈ cs, isDecimalDigit c = true

/-- Four runs of digits with points between them, a colon, and one more run. -/
def IsAddress (cs : List Char) : Prop :=
  ∃ a b c d port, (IsDigits a ∧ IsDigits b ∧ IsDigits c ∧ IsDigits d ∧ IsDigits port) ∧
    cs = a ++ '.' :: (b ++ '.' :: (c ++ '.' :: (d ++ ':' :: port)))

/-- An address stands somewhere in a text. -/
def HasAddress (cs : List Char) : Prop := ∃ address, IsAddress address ∧ address <:+: cs

theorem IsAddress.length_pos {cs : List Char} (h : IsAddress cs) : 0 < cs.length := by
  obtain ⟨a, b, c, d, port, -, rfl⟩ := h
  rw [List.length_append, List.length_cons]
  omega

/-! ## Reading -/

/-- A run is read to the end of the digits. -/
theorem afterDigits?_append {ds : List Char} (hds : IsDigits ds) (rest : List Char) :
    afterDigits? (ds ++ rest) = some (rest.dropWhile isDecimalDigit) := by
  rcases ds with _ | ⟨c, more⟩
  · exact absurd rfl hds.nonempty
  · rw [List.cons_append, afterDigits?, if_pos (hds.digits c (by simp)), List.dropWhile_append,
      List.dropWhile_eq_nil_iff.mpr fun d hd => hds.digits d (by simp [hd]), List.isEmpty_nil,
      if_pos rfl]

/-- In front of another character that is its end. -/
theorem afterDigits?_append_cons {ds : List Char} (hds : IsDigits ds) {c : Char}
    (hc : isDecimalDigit c = false) (rest : List Char) :
    afterDigits? (ds ++ c :: rest) = some (c :: rest) := by
  rw [afterDigits?_append hds, List.dropWhile_cons, hc]
  rfl

theorem exists_of_afterDigits? {cs rest : List Char} (h : afterDigits? cs = some rest) :
    ∃ ds, IsDigits ds ∧ cs = ds ++ rest := by
  rcases cs with _ | ⟨c, more⟩
  · cases h
  · rw [afterDigits?] at h
    split at h
    · next hc =>
      refine ⟨c :: more.takeWhile isDecimalDigit, ⟨by simp, ?_⟩, ?_⟩
      · exact List.forall_mem_cons.mpr ⟨hc, fun d hd => List.mem_takeWhile_imp hd⟩
      · rw [← Option.some.inj h, List.cons_append, List.takeWhile_append_dropWhile]
    · cases h

theorem eq_cons_of_afterChar? {c : Char} {cs rest : List Char} (h : afterChar? c cs = some rest) :
    cs = c :: rest := by
  rcases cs with _ | ⟨d, more⟩
  · cases h
  · rw [afterChar?] at h
    split at h
    · next hd => rw [hd, Option.some.inj h]
    · cases h

theorem afterChar?_cons (c : Char) (rest : List Char) : afterChar? c (c :: rest) = some rest := by
  rw [afterChar?, if_pos rfl]

/-- An address at the front is read with all digits of its port. -/
theorem afterAddress?_append {address : List Char} (h : IsAddress address) (rest : List Char) :
    afterAddress? (address ++ rest) = some (rest.dropWhile isDecimalDigit) := by
  obtain ⟨a, b, c, d, port, ⟨ha, hb, hc, hd, hport⟩, rfl⟩ := h
  have hpoint : isDecimalDigit '.' = false := by decide
  have hcolon : isDecimalDigit ':' = false := by decide
  simp only [afterAddress?, List.append_assoc, List.cons_append, Option.bind_some,
    afterDigits?_append_cons ha hpoint, afterDigits?_append_cons hb hpoint,
    afterDigits?_append_cons hc hpoint, afterDigits?_append_cons hd hcolon, afterChar?_cons,
    afterDigits?_append hport]

/-- What is read is an address. -/
theorem exists_of_afterAddress? {cs rest : List Char} (h : afterAddress? cs = some rest) :
    ∃ address, IsAddress address ∧ cs = address ++ rest := by
  unfold afterAddress? at h
  simp only [Option.bind_eq_some_iff] at h
  obtain ⟨_, h1, _, h2, _, h3, _, h4, _, h5, _, h6, _, h7, _, h8, h9⟩ := h
  obtain ⟨a, ha, rfl⟩ := exists_of_afterDigits? h1
  obtain rfl := eq_cons_of_afterChar? h2
  obtain ⟨b, hb, rfl⟩ := exists_of_afterDigits? h3
  obtain rfl := eq_cons_of_afterChar? h4
  obtain ⟨c, hc, rfl⟩ := exists_of_afterDigits? h5
  obtain rfl := eq_cons_of_afterChar? h6
  obtain ⟨d, hd, rfl⟩ := exists_of_afterDigits? h7
  obtain rfl := eq_cons_of_afterChar? h8
  obtain ⟨port, hport, rfl⟩ := exists_of_afterDigits? h9
  exact ⟨_, ⟨a, b, c, d, port, ⟨ha, hb, hc, hd, hport⟩, rfl⟩, by simp⟩

/-! ## The first address -/

/-- The first address of a text, with what stands before and behind it: none begins further to the
left, and none that begins there is longer. -/
structure FirstAddress (cs before address rest : List Char) : Prop where
  text : cs = before ++ (address ++ rest)
  isAddress : IsAddress address
  leftmost : ∀ before' address' rest', cs = before' ++ (address' ++ rest') →
    IsAddress address' → before.length ≤ before'.length
  longest : ∀ address' rest', cs = before ++ (address' ++ rest') → IsAddress address' →
    address'.length ≤ address.length

namespace FirstAddress

/-- An address that is read at the front is the first one. -/
theorem of_afterAddress? {cs rest : List Char} (h : afterAddress? cs = some rest) :
    ∃ address, FirstAddress cs [] address rest := by
  obtain ⟨address, haddress, htext⟩ := exists_of_afterAddress? h
  refine ⟨address, htext, haddress, fun _ _ _ _ _ => Nat.zero_le _, ?_⟩
  intro address' rest' htext' haddress'
  have hread := afterAddress?_append haddress' rest'
  rw [List.nil_append] at htext'
  rw [← htext', h, Option.some.injEq] at hread
  -- Behind any other address at the front there are at least as many characters.
  have hbehind : rest.length ≤ rest'.length := by
    rw [hread]
    exact (List.dropWhile_suffix isDecimalDigit).length_le
  have hlength : address.length + rest.length = address'.length + rest'.length := by
    rw [← List.length_append, ← List.length_append, ← htext, ← htext']
  omega

/-- If none is read at the front, the first one of the rest is the first one. -/
theorem cons {c : Char} {cs before address rest : List Char}
    (hnone : afterAddress? (c :: cs) = none) (h : FirstAddress cs before address rest) :
    FirstAddress (c :: cs) (c :: before) address rest where
  text := by rw [h.text, List.cons_append]
  isAddress := h.isAddress
  leftmost before' address' rest' htext haddress := by
    rcases before' with _ | ⟨d, more⟩
    · -- One at the very front would have been read.
      rw [htext, List.nil_append, afterAddress?_append haddress] at hnone
      cases hnone
    · have hrest := h.leftmost more address' rest' (List.cons.inj htext).2 haddress
      exact Nat.succ_le_succ hrest
  longest address' rest' htext haddress :=
    h.longest address' rest' (List.cons.inj htext).2 haddress

theorem hasAddress {cs before address rest : List Char}
    (h : FirstAddress cs before address rest) : HasAddress cs := by
  refine ⟨address, h.isAddress, before, rest, ?_⟩
  rw [h.text, List.append_assoc]

/-- No address stands in front of the first one. -/
theorem not_hasAddress {cs before address rest : List Char}
    (h : FirstAddress cs before address rest) : ¬HasAddress before := by
  rintro ⟨inner, hinner, front, back, hbefore⟩
  have hleft := h.leftmost front inner (back ++ (address ++ rest))
    (by rw [h.text, ← hbefore]; simp) hinner
  have hpos := hinner.length_pos
  rw [← hbefore, List.length_append, List.length_append] at hleft
  omega

/-- There is only one first address. -/
theorem unique {cs before address rest before' address' rest' : List Char}
    (h : FirstAddress cs before address rest) (h' : FirstAddress cs before' address' rest') :
    before = before' ∧ address = address' ∧ rest = rest' := by
  have hplace : before.length = before'.length :=
    Nat.le_antisymm (h.leftmost _ _ _ h'.text h'.isAddress)
      (h'.leftmost _ _ _ h.text h.isAddress)
  obtain ⟨hbefore, htail⟩ := List.append_inj (h.text.symm.trans h'.text) hplace
  subst hbefore
  have hlength : address.length = address'.length :=
    Nat.le_antisymm (h'.longest _ _ h.text h.isAddress) (h.longest _ _ h'.text h'.isAddress)
  obtain ⟨haddress, hrest⟩ := List.append_inj htail hlength
  exact ⟨rfl, haddress, hrest⟩

end FirstAddress

/-! ## The parts of a text -/

/-- A text cut at its addresses, from the left: each address with what stands before it, and what
stands behind the last one. -/
inductive Segmented : List Char → List (List Char × List Char) → List Char → Prop where
  | last {cs : List Char} : ¬HasAddress cs → Segmented cs [] cs
  | address {cs before address rest last : List Char} {parts : List (List Char × List Char)} :
    FirstAddress cs before address rest → Segmented rest parts last →
      Segmented cs ((before, address) :: parts) last

/-- Parts with a text for each address. -/
def filled (new : List Char) (parts : List (List Char × List Char)) (last : List Char) :
    List Char :=
  parts.flatMap (fun part => part.1 ++ new) ++ last

namespace Segmented

variable {cs last : List Char} {parts : List (List Char × List Char)}

/-- The parts are all of the text. -/
theorem text (h : Segmented cs parts last) :
    cs = parts.flatMap (fun part => part.1 ++ part.2) ++ last := by
  induction h with
  | last _ => rfl
  | address hfirst _ ih => rw [hfirst.text, List.flatMap_cons, ih]; simp

/-- The parts that are replaced are addresses, and in no other part there is one. -/
theorem addresses (h : Segmented cs parts last) :
    (∀ part ∈ parts, ¬HasAddress part.1 ∧ IsAddress part.2) ∧ ¬HasAddress last := by
  induction h with
  | last hnone => exact ⟨by simp, hnone⟩
  | address hfirst _ ih =>
    exact ⟨List.forall_mem_cons.mpr ⟨⟨hfirst.not_hasAddress, hfirst.isAddress⟩, ih.1⟩, ih.2⟩

/-- A text is cut in one way only. -/
theorem unique {parts' : List (List Char × List Char)} {last' : List Char}
    (h : Segmented cs parts last) (h' : Segmented cs parts' last') :
    parts = parts' ∧ last = last' := by
  induction h generalizing parts' last' with
  | last hnone =>
    rcases h' with _ | ⟨hfirst, _⟩
    · exact ⟨rfl, rfl⟩
    · exact absurd hfirst.hasAddress hnone
  | address hfirst hrest ih =>
    rcases h' with hnone | ⟨hfirst', hrest'⟩
    · exact absurd hfirst.hasAddress hnone
    · obtain ⟨rfl, rfl, rfl⟩ := hfirst.unique hfirst'
      obtain ⟨rfl, rfl⟩ := ih hrest'
      exact ⟨rfl, rfl⟩

/-- A character in front of which no address is read belongs to the part that it stands before. -/
theorem cons {c : Char} (hnone : afterAddress? (c :: cs) = none) (h : Segmented cs parts last) :
    ∃ parts' last', Segmented (c :: cs) parts' last' ∧
      ∀ new, filled new parts' last' = c :: filled new parts last := by
  rcases h with hcs | ⟨hfirst, hrest⟩
  · -- No part follows, so that all of the text is the last part.
    refine ⟨[], c :: cs, .last ?_, fun _ => rfl⟩
    rintro ⟨address, haddress, hinfix⟩
    rcases List.infix_cons_iff.mp hinfix with ⟨rest, hprefix⟩ | hinfix
    · rw [← hprefix, afterAddress?_append haddress] at hnone
      cases hnone
    · exact hcs ⟨address, haddress, hinfix⟩
  · exact ⟨_, _, .address (hfirst.cons hnone) hrest, fun _ => rfl⟩

end Segmented

/-- Addresses are replaced at the cuts of a text, and the other parts stay. -/
theorem replaceAddresses_eq_filled (new cs : List Char) :
    ∃ parts last, Segmented cs parts last ∧ replaceAddresses new cs = filled new parts last := by
  fun_induction replaceAddresses new cs with
  | case1 =>
    refine ⟨[], [], .last ?_, rfl⟩
    rintro ⟨address, haddress, hinfix⟩
    have hpos := haddress.length_pos
    rw [List.infix_nil.mp hinfix] at hpos
    exact Nat.lt_irrefl 0 hpos
  | case2 c rest after hread _ ih =>
    obtain ⟨parts, last, hrest, hreplaced⟩ := ih
    obtain ⟨address, hfirst⟩ := FirstAddress.of_afterAddress? hread
    refine ⟨([], address) :: parts, last, .address hfirst hrest, ?_⟩
    rw [hreplaced, filled, filled, List.flatMap_cons, List.nil_append, List.append_assoc]
  | case3 c rest hread ih =>
    obtain ⟨parts, last, hrest, hreplaced⟩ := ih
    obtain ⟨parts', last', hall, hfilled⟩ := hrest.cons hread
    exact ⟨parts', last', hall, by rw [hfilled, hreplaced]⟩

/-- The first number of five is none of the address. -/
example : replaceAddresses "$1".toList "1.2.3.4.5:60 6:7".toList = "1.$1 6:7".toList := by cbv

end ClusterFixture.Text
