/-
Text as bytes, and bytes as text.

Every character is written in one to four bytes. Reading takes the longest well-formed beginning:
where none exists, the longest run that could have begun a character counts as one broken piece.
The strict reading refuses broken pieces; the lenient one puts U+FFFD in their place.
-/

set_option autoImplicit false

namespace ClusterFixture.Text

/-- File contents and what a process writes. -/
abbrev Bytes := List UInt8

/-! ## Writing -/

/-- The bytes of one character. -/
def utf8Char (c : Char) : Bytes :=
  let n := c.toNat
  if n < 0x80 then [UInt8.ofNat n]
  else if n < 0x800 then
    [UInt8.ofNat (0xC0 + n / 64), UInt8.ofNat (0x80 + n % 64)]
  else if n < 0x10000 then
    [UInt8.ofNat (0xE0 + n / 4096), UInt8.ofNat (0x80 + n / 64 % 64), UInt8.ofNat (0x80 + n % 64)]
  else
    [UInt8.ofNat (0xF0 + n / 262144), UInt8.ofNat (0x80 + n / 4096 % 64),
      UInt8.ofNat (0x80 + n / 64 % 64), UInt8.ofNat (0x80 + n % 64)]

/-- The bytes of a list of characters. -/
def utf8Chars (cs : List Char) : Bytes := cs.flatMap utf8Char

/-- The bytes of a text. -/
def utf8 (s : String) : Bytes := utf8Chars s.toList

/-! ## Reading -/

/-- How many bytes follow a first byte, with the bounds of the byte right after it. -/
def continuation (b : UInt8) : Option (Nat × Nat × Nat) :=
  let n := b.toNat
  if 0xC2 ≤ n && n ≤ 0xDF then some (1, 0x80, 0xBF)
  else if n == 0xE0 then some (2, 0xA0, 0xBF)
  else if n == 0xED then some (2, 0x80, 0x9F)
  else if 0xE1 ≤ n && n ≤ 0xEF then some (2, 0x80, 0xBF)
  else if n == 0xF0 then some (3, 0x90, 0xBF)
  else if 0xF1 ≤ n && n ≤ 0xF3 then some (3, 0x80, 0xBF)
  else if n == 0xF4 then some (3, 0x80, 0x8F)
  else none

/-- The code point after a number of further bytes, the first of them between the two bounds, with
the bytes left; a broken piece ends before the first byte out of bounds. -/
def takeTail : Nat → Nat → Nat → Nat → Bytes → Option Nat × Bytes
  | 0, _, _, point, rest => (some point, rest)
  | _ + 1, _, _, _, [] => (none, [])
  | k + 1, lo, hi, point, b :: more =>
    if lo ≤ b.toNat && b.toNat ≤ hi then
      takeTail k 0x80 0xBF (point * 64 + b.toNat % 64) more
    else (none, b :: more)

/-- The first character of a non-empty run of bytes, or nothing for a broken piece, with the bytes
after it. -/
def takeChar (b : UInt8) (rest : Bytes) : Option Char × Bytes :=
  if b.toNat < 0x80 then (some (Char.ofNat b.toNat), rest)
  else match continuation b with
    | none => (none, rest)
    | some (k, lo, hi) =>
      let first := if k == 1 then b.toNat % 32 else if k == 2 then b.toNat % 16 else b.toNat % 8
      let (point, after) := takeTail k lo hi first rest
      (point.map Char.ofNat, after)

theorem length_takeTail (k lo hi point : Nat) (rest : Bytes) :
    (takeTail k lo hi point rest).2.length ≤ rest.length := by
  fun_induction takeTail k lo hi point rest with
  | case1 => simp
  | case2 => simp
  | case3 _ _ _ _ _ _ _ ih => exact Nat.le_succ_of_le ih
  | case4 => simp

theorem length_takeChar (b : UInt8) (rest : Bytes) :
    (takeChar b rest).2.length ≤ rest.length := by
  unfold takeChar
  split
  · simp
  · split
    · simp
    · exact length_takeTail _ _ _ _ rest

/-- The pieces of a run of bytes: characters, and nothing for each broken piece. -/
def pieces : Bytes → List (Option Char)
  | [] => []
  | b :: rest => (takeChar b rest).1 :: pieces (takeChar b rest).2
termination_by bs => bs.length
decreasing_by exact Nat.lt_succ_of_le (length_takeChar b rest)

/-- The characters of well-formed bytes. -/
def chars? (bs : Bytes) : Option (List Char) := (pieces bs).mapM id

/-- The text of well-formed bytes. -/
def ofUtf8? (bs : Bytes) : Option String := (chars? bs).map String.ofList

/-- The text of any bytes, with U+FFFD for every broken piece. -/
def ofUtf8Lenient (bs : Bytes) : String :=
  String.ofList ((pieces bs).map fun piece => piece.getD '\uFFFD')

end ClusterFixture.Text
