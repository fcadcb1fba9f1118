/-
A text between quotes, as messages show it.

Quotes and backslashes get a backslash, five control characters have a letter of their own, and
every other character that cannot be seen alone is written by its code point.
-/

import ClusterFixture.Unicode.Table

set_option autoImplicit false

namespace ClusterFixture.Text

/-- The characters that are shown by their code point: control and format characters, separators
other than the space, those without a meaning of their own, and marks that join the one before. -/
def hiddenRanges : List Unicode.CodeRange :=
  ["cc", "cf", "cn", "co", "cs", "zl", "zp", "zs"].flatMap Unicode.category
    ++ Unicode.property "graphemeextend"

/-- Whether a character is shown by its code point. -/
def isHidden (c : Char) : Bool :=
  if c.toNat < 0x7F then c.toNat < 0x20 else Unicode.holds hiddenRanges c.toNat

/-- How one character is shown between double quotes. -/
def quotedChar (c : Char) : List Char :=
  if c = '\x00' then ['\\', '0']
  else if c = '\t' then ['\\', 't']
  else if c = '\n' then ['\\', 'n']
  else if c = '\r' then ['\\', 'r']
  else if c = '"' then ['\\', '"']
  else if c = '\\' then ['\\', '\\']
  else if isHidden c then "\\u\x7b".toList ++ Nat.toDigits 16 c.toNat ++ ['}']
  else [c]

/-- A text between double quotes. -/
def quoted (s : String) : String :=
  String.ofList ('"' :: s.toList.flatMap quotedChar ++ ['"'])

end ClusterFixture.Text
