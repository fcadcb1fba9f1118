/-
Reading JSON text.

The reader takes the standard grammar and nothing more, down to a fixed depth of arrays and objects.
An integer outside 64 bits, and any number with a fraction or an exponent, becomes a binary64
number: the digits that fit into 64 bits are scaled by a power of ten in one or two rounded steps. A
number beyond the format is refused.
-/

import ClusterFixture.Json.Basic

set_option autoImplicit false

namespace ClusterFixture.Json

open ClusterFixture.Number

/-! ## Blanks -/

/-- Whether a character may stand between two parts. -/
def isSpace (c : Char) : Bool := c = ' ' || c = '\n' || c = '\t' || c = '\r'

/-- The text without the blanks at its start. -/
def skipSpace (cs : List Char) : List Char := cs.dropWhile isSpace

/-! ## Texts -/

/-- The value of four hexadecimal digits, with what follows them. -/
def fourDigits? : List Char → Option (Nat × List Char)
  | a :: b :: c :: d :: rest => (natIn? 16 [a, b, c, d]).map fun n => (n, rest)
  | _ => none

/-- The character that two halves of a code point beyond 16 bits make. -/
def joinHalves (high low : Nat) : Char :=
  Char.ofNat (0x10000 + (high - 0xD800) * 0x400 + (low - 0xDC00))

/-- The character of an escape by code point, read after its mark; halves must come in pairs. -/
def codePoint? (cs : List Char) : Option (Char × List Char) :=
  match fourDigits? cs with
  | none => none
  | some (n, rest) =>
    if 0xDC00 ≤ n && n ≤ 0xDFFF then none
    else if 0xD800 ≤ n && n ≤ 0xDBFF then
      match rest with
      | '\\' :: 'u' :: more =>
        match fourDigits? more with
        | none => none
        | some (low, rest) =>
          if 0xDC00 ≤ low && low ≤ 0xDFFF then some (joinHalves n low, rest) else none
      | _ => none
    else some (Char.ofNat n, rest)

/-- The character of an escape, read after the backslash. -/
def escape? : List Char → Option (Char × List Char)
  | [] => none
  | c :: rest =>
    if c = '"' || c = '\\' || c = '/' then some (c, rest)
    else if c = 'b' then some ('\x08', rest)
    else if c = 'f' then some ('\x0c', rest)
    else if c = 'n' then some ('\n', rest)
    else if c = 'r' then some ('\r', rest)
    else if c = 't' then some ('\t', rest)
    else if c = 'u' then codePoint? rest
    else none

theorem length_fourDigits? {cs rest : List Char} {n : Nat} (h : fourDigits? cs = some (n, rest)) :
    rest.length < cs.length := by
  unfold fourDigits? at h
  split at h
  · simp only [Option.map_eq_some_iff, Prod.mk.injEq] at h
    obtain ⟨_, _, _, rfl⟩ := h
    simp
    omega
  · simp at h

theorem length_codePoint? {cs rest : List Char} {c : Char} (h : codePoint? cs = some (c, rest)) :
    rest.length < cs.length := by
  unfold codePoint? at h
  split at h
  · simp at h
  · next n r hr =>
    have h1 := length_fourDigits? hr
    split at h
    · simp at h
    · split at h
      · split at h
        · next more =>
          split at h
          · simp at h
          · next low r2 hr2 =>
            have h2 := length_fourDigits? hr2
            split at h
            · simp only [Option.some.injEq, Prod.mk.injEq] at h
              simp only [List.length_cons] at h1
              rw [← h.2]
              omega
            · simp at h
        · simp at h
      · simp only [Option.some.injEq, Prod.mk.injEq] at h
        rw [← h.2]
        omega

theorem length_escape? {cs rest : List Char} {c : Char} (h : escape? cs = some (c, rest)) :
    rest.length < cs.length := by
  unfold escape? at h
  split at h
  · simp at h
  · next d r =>
    have step : ∀ {x : Char}, some (x, r) = some (c, rest) → rest.length < (d :: r).length := by
      intro x hx
      simp only [Option.some.injEq, Prod.mk.injEq] at hx
      simp [hx.2]
    split at h
    · exact step h
    split at h
    · exact step h
    split at h
    · exact step h
    split at h
    · exact step h
    split at h
    · exact step h
    split at h
    · exact step h
    split at h
    · have := length_codePoint? h
      simp only [List.length_cons]
      omega
    · simp at h

/-- The characters of a text, read after the opening quote, with what follows the closing one. -/
def stringBody? : List Char → Option (List Char × List Char)
  | [] => none
  | c :: rest =>
    if c = '"' then some ([], rest)
    else if c = '\\' then
      match h : escape? rest with
      | none => none
      | some (d, after) =>
        have := length_escape? h
        (stringBody? after).map fun (cs, left) => (d :: cs, left)
    else if c.toNat < 0x20 then none
    else (stringBody? rest).map fun (cs, left) => (c :: cs, left)
termination_by cs => cs.length

/-! ## Numbers -/

/-- The greatest significand that is kept exactly. -/
def significandLimit : Nat := twoTo 64 - 1

/-- Appends digits to a significand as long as it stays within the limit; also the number of digits
taken, and what follows them. -/
def takeSignificand (value taken : Nat) : List Char → Nat × Nat × List Char
  | [] => (value, taken, [])
  | c :: rest =>
    match digitValue? c with
    | some d =>
      if value * 10 + d ≤ significandLimit then takeSignificand (value * 10 + d) (taken + 1) rest
      else (value, taken, c :: rest)
    | none => (value, taken, c :: rest)

/-- The number of digits at the start, and what follows them. -/
def skipDigits (cs : List Char) : Nat × List Char :=
  ((cs.takeWhile Char.isDigit).length, cs.dropWhile Char.isDigit)

/-- Ten to a power, rounded. -/
def powerOfTen (n : Nat) : Binary64 := .ofDecimal false 1 n

/-- A positive number times a power of ten; far below one, in steps of the greatest power that the
format has. Nothing where the product leaves the format. -/
def scaleByTen (x : Binary64) (e : Int) : Nat → Option Binary64
  | 0 => some .zero
  | fuel + 1 =>
    if e.natAbs ≤ 308 then
      if 0 ≤ e then
        match x.mul (powerOfTen e.natAbs) with
        | .infinite _ => none
        | y => some y
      else some (x.div (powerOfTen e.natAbs))
    else if x.same .zero then some x
    else if 0 ≤ e then none
    else scaleByTen (x.div (powerOfTen 308)) (e + 308) fuel

/-- The number of a sign, a significand and a power of ten. -/
def floatOfParts? (neg : Bool) (significand : Nat) (e : Int) : Option Json :=
  (scaleByTen (.ofRatio false significand 1) e 4).map fun x => .float (if neg then x.neg else x)

/-- The power of ten after its mark, with what follows it. -/
def exponent? (cs : List Char) : Option (Int × List Char) :=
  let (down, cs) := match cs with
    | '+' :: rest => (false, rest)
    | '-' :: rest => (true, rest)
    | cs => (false, cs)
  let digits := cs.takeWhile Char.isDigit
  if digits.isEmpty then none
  else
    let n : Int := (natIn? 10 digits).getD 0
    some (if down then -n else n, cs.dropWhile Char.isDigit)

/-- The end of a number that is no plain integer: an optional exponent after a significand. -/
def scaled? (neg : Bool) (significand : Nat) (e : Int) (cs : List Char) :
    Option (Json × List Char) :=
  match cs with
  | c :: rest =>
    if c = 'e' || c = 'E' then do
      let (f, after) ← exponent? rest
      return (← floatOfParts? neg significand (e + f), after)
    else (floatOfParts? neg significand e).map fun j => (j, c :: rest)
  | [] => (floatOfParts? neg significand e).map fun j => (j, [])

/-- A plain integer; zero with a sign is no integer, nor is one beyond 64 bits. -/
def integerValue (neg : Bool) (n : Nat) : Json :=
  if neg then
    if 0 < n && n ≤ twoTo 63 then .integer (-n) else .float (Binary64.ofRatio false n 1).neg
  else .integer n

/-- What follows the digits before the point, of which `dropped` did not fit into the
significand. -/
def afterWhole? (neg : Bool) (significand dropped : Nat) (cs : List Char) :
    Option (Json × List Char) :=
  match cs with
  | '.' :: rest =>
    let (significand, taken, left) := takeSignificand significand 0 rest
    let (extra, left) := skipDigits left
    if taken + extra = 0 then none else scaled? neg significand (dropped - taken) left
  | 'e' :: _ => scaled? neg significand dropped cs
  | 'E' :: _ => scaled? neg significand dropped cs
  | _ =>
    if dropped = 0 then some (integerValue neg significand, cs)
    else scaled? neg significand dropped cs

/-- A number without its sign. -/
def unsigned? (neg : Bool) (cs : List Char) : Option (Json × List Char) :=
  match cs with
  | [] => none
  | c :: rest =>
    if c = '0' then
      if (rest.head?.map Char.isDigit).getD false then none else afterWhole? neg 0 0 rest
    else if c.isDigit then
      let (significand, _, left) := takeSignificand 0 0 cs
      let (dropped, left) := skipDigits left
      afterWhole? neg significand dropped left
    else none

/-! ## Values -/

/-- What follows a word, where the text starts with it. -/
def word? (word : String) (value : Json) (cs : List Char) : Option (Json × List Char) :=
  if word.toList.isPrefixOf cs then some (value, cs.drop word.length) else none

/-- The depth of arrays and objects that is refused. -/
def depthLimit : Nat := 128

mutual

/-- A value at the start of the text, with what follows it. The first number bounds the steps; the
second is how many more levels there may be. -/
def value? : Nat → Nat → List Char → Option (Json × List Char)
  | 0, _, _ => none
  | fuel + 1, depth, text =>
    match skipSpace text with
    | [] => none
    | c :: rest =>
      if c = '"' then (stringBody? rest).map fun (cs, left) => (.string (String.ofList cs), left)
      else if c = '[' then
        if depth ≤ 1 then none
        else match skipSpace rest with
          | ']' :: left => some (.array [], left)
          | start => (items? fuel (depth - 1) start).map fun (items, left) => (.array items, left)
      else if c = '\x7b' then
        if depth ≤ 1 then none
        else match skipSpace rest with
          | '\x7d' :: left => some (.object [], left)
          | start =>
            (members? fuel (depth - 1) start).map fun (members, left) => (ofMembers members, left)
      else if c = 'n' then word? "null" .null (c :: rest)
      else if c = 't' then word? "true" (.bool true) (c :: rest)
      else if c = 'f' then word? "false" (.bool false) (c :: rest)
      else if c = '-' then unsigned? true rest
      else unsigned? false (c :: rest)

/-- The items of an array up to its closing bracket; at least one. -/
def items? : Nat → Nat → List Char → Option (List Json × List Char)
  | 0, _, _ => none
  | fuel + 1, depth, text =>
    match value? fuel depth text with
    | none => none
    | some (item, after) =>
      match skipSpace after with
      | ',' :: more => (items? fuel depth more).map fun (items, left) => (item :: items, left)
      | ']' :: left => some ([item], left)
      | _ => none

/-- The members of an object up to its closing brace; at least one. -/
def members? : Nat → Nat → List Char → Option (List (String × Json) × List Char)
  | 0, _, _ => none
  | fuel + 1, depth, text =>
    match skipSpace text with
    | '"' :: rest =>
      match stringBody? rest with
      | none => none
      | some (key, after) =>
        match skipSpace after with
        | ':' :: more =>
          match value? fuel depth more with
          | none => none
          | some (value, after) =>
            match skipSpace after with
            | ',' :: more =>
              (members? fuel depth more).map fun (members, left) =>
                ((String.ofList key, value) :: members, left)
            | '\x7d' :: left => some ([(String.ofList key, value)], left)
            | _ => none
        | _ => none
    | _ => none

end

/-- The value that a text is, blanks around it aside. -/
def read? (s : String) : Option Json :=
  match value? (2 * s.toList.length + 1) depthLimit s.toList with
  | some (j, rest) => if (skipSpace rest).isEmpty then some j else none
  | none => none

end ClusterFixture.Json
