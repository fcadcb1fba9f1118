/-
Blanks, lines and words of a text.

A blank is a character with the Unicode property White_Space. Trimming removes blanks at the ends
only; a line ends at a line feed and gives up one carriage return right before it; a word is a
longest run without blanks. Everything is defined on lists of characters, with a wrapper on
`String` beside it.
-/

set_option autoImplicit false

namespace ClusterFixture.Text

/-! ## Blanks -/

/-- The characters of the Unicode property White_Space. -/
def isBlank (c : Char) : Bool :=
  let n := c.toNat
  (9 ≤ n && n ≤ 13) || n == 32 || n == 0x85 || n == 0xA0 || n == 0x1680
    || (0x2000 ≤ n && n ≤ 0x200A) || n == 0x2028 || n == 0x2029 || n == 0x202F
    || n == 0x205F || n == 0x3000

/-- The list without its leading blanks. -/
def trimStartChars (cs : List Char) : List Char := cs.dropWhile isBlank

/-- The list without its trailing blanks. -/
def trimEndChars (cs : List Char) : List Char := (cs.reverse.dropWhile isBlank).reverse

/-- The list without the blanks at both ends. -/
def trimChars (cs : List Char) : List Char := trimEndChars (trimStartChars cs)

/-- The text without its trailing blanks. -/
def trimEnd (s : String) : String := String.ofList (trimEndChars s.toList)

/-- The text without the blanks at both ends. -/
def trim (s : String) : String := String.ofList (trimChars s.toList)

@[simp] theorem toList_trim (s : String) : (trim s).toList = trimChars s.toList := by
  simp [trim]

/-! ## Lines -/

/-- The list without one carriage return at its end. -/
def dropReturn (cs : List Char) : List Char :=
  if cs.getLast? = some '\r' then cs.dropLast else cs

/-- The lines of `cs`, where `line` holds what was read of the first one, in reverse. -/
def linesFrom (line : List Char) : List Char → List (List Char)
  | [] => if line.isEmpty then [] else [line.reverse]
  | '\n' :: rest => dropReturn line.reverse :: linesFrom [] rest
  | c :: rest => linesFrom (c :: line) rest

/-- The lines of a list of characters, without their ends. The last line needs no end; an empty
one after the last line feed is not counted. -/
def lineChars (cs : List Char) : List (List Char) := linesFrom [] cs

/-- The lines of a text. -/
def lines (s : String) : List String := (lineChars s.toList).map String.ofList

/-! ## Words -/

/-- The words of `cs`, where `word` holds what was read of the first one, in reverse. -/
def wordsFrom (word : List Char) : List Char → List (List Char)
  | [] => if word.isEmpty then [] else [word.reverse]
  | c :: rest =>
    if isBlank c then
      if word.isEmpty then wordsFrom [] rest else word.reverse :: wordsFrom [] rest
    else wordsFrom (c :: word) rest

/-- The words of a text: its longest runs without blanks. -/
def words (s : String) : List String := (wordsFrom [] s.toList).map String.ofList

end ClusterFixture.Text
