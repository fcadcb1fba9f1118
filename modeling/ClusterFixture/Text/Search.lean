/-
Looking for one text inside another: containment, cutting at a separator and replacement.

All three read from the left and never let two occurrences overlap.
-/

set_option autoImplicit false

namespace ClusterFixture.Text

/-! ## Containment -/

/-- Whether `p` occurs in `s` without a gap. -/
def occursIn (p : List Char) : List Char → Bool
  | [] => p.isEmpty
  | c :: rest => p.isPrefixOf (c :: rest) || occursIn p rest

theorem occursIn_iff (p s : List Char) : occursIn p s = true ↔ p <:+: s := by
  induction s with
  | nil => simp [occursIn]
  | cons c r ih => simp [occursIn, ih, List.infix_cons_iff]

/-- Whether the text `s` contains the text `p`. -/
def contains (s p : String) : Bool := occursIn p.toList s.toList

/-- Whether the text `s` starts with the text `p`. -/
def startsWith (s p : String) : Bool := p.toList.isPrefixOf s.toList

/-- Whether the text `s` ends with the text `p`. -/
def endsWith (s p : String) : Bool := p.toList.isSuffixOf s.toList

/-! ## Cutting -/

/-- The pieces of `s` between the characters that satisfy `cut`. -/
def splitAt (cut : Char → Bool) : List Char → List (List Char)
  | [] => [[]]
  | c :: rest =>
    if cut c then [] :: splitAt cut rest
    else match splitAt cut rest with
      | [] => [[c]]
      | piece :: more => (c :: piece) :: more

theorem splitAt_ne_nil (cut : Char → Bool) (s : List Char) : splitAt cut s ≠ [] := by
  induction s with
  | nil => simp [splitAt]
  | cons c r ih =>
    simp only [splitAt]
    split
    · simp
    · split <;> simp

/-- The pieces of a text between the occurrences of one character. -/
def split (s : String) (c : Char) : List String :=
  (splitAt (· == c) s.toList).map String.ofList

/-- What stands before and after the first occurrence of a character. -/
def cutAt (c : Char) : List Char → Option (List Char × List Char)
  | [] => none
  | d :: rest =>
    if d = c then some ([], rest)
    else (cutAt c rest).map fun (before, after) => (d :: before, after)

/-! ## Replacement -/

/-- Every occurrence of `old` in a list replaced by `new`; the number bounds the steps and is at
least the length of the list. -/
def replaceWithin (old new : List Char) : Nat → List Char → List Char
  | 0, s => s
  | _ + 1, [] => []
  | fuel + 1, c :: rest =>
    if !old.isEmpty && old.isPrefixOf (c :: rest) then
      new ++ replaceWithin old new fuel ((c :: rest).drop old.length)
    else c :: replaceWithin old new fuel rest

/-- The text `s` with every occurrence of `old` replaced by `new`. -/
def replace (s old new : String) : String :=
  String.ofList (replaceWithin old.toList new.toList s.toList.length s.toList)

/-- The texts of a list with `sep` between each two. -/
def joinWith (sep : String) : List String → String
  | [] => ""
  | [s] => s
  | s :: rest => s ++ sep ++ joinWith sep rest

end ClusterFixture.Text
