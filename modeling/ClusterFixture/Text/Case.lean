/-
Lower case and upper case.

The lower case of a text maps each character on its own, but for two: the capital sigma, which ends
a word as its final form, and the capital I with a dot, which becomes two characters. The ASCII maps
leave all other characters alone.
-/

import ClusterFixture.Unicode.Table

set_option autoImplicit false

namespace ClusterFixture.Text

/-- The characters with a case. -/
def casedRanges : List Unicode.CodeRange := Unicode.property "cased"

/-- The characters that a search for the end of a word passes over. -/
def caseIgnorableRanges : List Unicode.CodeRange := Unicode.property "caseignorable"

/-- Whether the first character that counts has a case. -/
def reachesCased (cs : List Char) : Bool :=
  match cs.dropWhile fun c => Unicode.holds caseIgnorableRanges c.toNat with
  | [] => false
  | c :: _ => Unicode.holds casedRanges c.toNat

/-- The lower case of a list of characters; `before` holds those already passed, in reverse. -/
def lowerFrom (before : List Char) : List Char → List Char
  | [] => []
  | c :: rest =>
    let lowered :=
      if c.toNat < 0x80 then [c.toLower]
      else if c = '\u03A3' then
        [if reachesCased before && !reachesCased rest then '\u03C2' else '\u03C3']
      else if c = '\u0130' then ['i', '\u0307']
      else [Char.ofNat (Unicode.mapCase Unicode.lowerRuns c.toNat)]
    lowered ++ lowerFrom (c :: before) rest

/-- The lower case of a text. -/
def lower (s : String) : String := String.ofList (lowerFrom [] s.toList)

/-- The text with its ASCII letters in upper case. -/
def upperAscii (s : String) : String := String.ofList (s.toList.map Char.toUpper)

/-- The text with its ASCII letters in lower case. -/
def lowerAscii (s : String) : String := String.ofList (s.toList.map Char.toLower)

end ClusterFixture.Text
