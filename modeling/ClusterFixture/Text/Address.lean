/-
Number addresses with a port inside a text, and plain decimal fractions.

An address is four runs of decimal digits with points between them, then a colon and one more run.
Addresses are looked for from the left and never overlap.
-/

import ClusterFixture.Text.Digit

set_option autoImplicit false

namespace ClusterFixture.Text

/-- What follows a run of at least one decimal digit. -/
def afterDigits? (cs : List Char) : Option (List Char) :=
  match cs with
  | [] => none
  | c :: rest => if isDecimalDigit c then some (rest.dropWhile isDecimalDigit) else none

/-- What follows one given character. -/
def afterChar? (c : Char) : List Char → Option (List Char)
  | [] => none
  | d :: rest => if d = c then some rest else none

/-- What follows an address at the start of a text. -/
def afterAddress? (cs : List Char) : Option (List Char) :=
  (afterDigits? cs).bind fun cs => (afterChar? '.' cs).bind fun cs =>
  (afterDigits? cs).bind fun cs => (afterChar? '.' cs).bind fun cs =>
  (afterDigits? cs).bind fun cs => (afterChar? '.' cs).bind fun cs =>
  (afterDigits? cs).bind fun cs => (afterChar? ':' cs).bind fun cs => afterDigits? cs

theorem length_afterDigits? {cs rest : List Char} (h : afterDigits? cs = some rest) :
    rest.length < cs.length := by
  unfold afterDigits? at h
  split at h
  · simp at h
  · next c more =>
    split at h
    · simp only [Option.some.injEq] at h
      have := (List.dropWhile_suffix isDecimalDigit (l := more)).length_le
      simp only [List.length_cons, ← h]
      omega
    · simp at h

theorem length_afterChar? {c : Char} {cs rest : List Char} (h : afterChar? c cs = some rest) :
    rest.length < cs.length := by
  unfold afterChar? at h
  split at h
  · simp at h
  · split at h
    · simp only [Option.some.injEq] at h
      simp [h]
    · simp at h

theorem length_afterAddress? {cs rest : List Char} (h : afterAddress? cs = some rest) :
    rest.length < cs.length := by
  unfold afterAddress? at h
  simp only [Option.bind_eq_some_iff] at h
  obtain ⟨_, h1, _, h2, _, h3, _, h4, _, h5, _, h6, _, h7, _, h8, h9⟩ := h
  have := length_afterDigits? h1
  have := length_afterChar? h2
  have := length_afterDigits? h3
  have := length_afterChar? h4
  have := length_afterDigits? h5
  have := length_afterChar? h6
  have := length_afterDigits? h7
  have := length_afterChar? h8
  have := length_afterDigits? h9
  omega

/-- A text with every address replaced. -/
def replaceAddresses (new : List Char) : List Char → List Char
  | [] => []
  | c :: rest =>
    match h : afterAddress? (c :: rest) with
    | some after =>
      have := length_afterAddress? h
      new ++ replaceAddresses new after
    | none => c :: replaceAddresses new rest
termination_by cs => cs.length
decreasing_by
  · exact this
  · exact Nat.lt_succ_self _

/-- Whether a text is two runs of decimal digits with a point between them. -/
def isPlainFraction (cs : List Char) : Bool :=
  ((afterDigits? cs).bind fun cs => (afterChar? '.' cs).bind afterDigits?) == some []

end ClusterFixture.Text
