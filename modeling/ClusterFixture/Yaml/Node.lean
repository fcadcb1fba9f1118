/-
The values that a YAML text means.

A text without quotes is a number, a truth value or nothing where it is spelled like one; a tag of
the core set decides instead, and refuses what does not fit.
-/

import ClusterFixture.Number.Decimal
import ClusterFixture.Number.Integer
import ClusterFixture.Yaml.Token

set_option autoImplicit false

namespace ClusterFixture.Yaml

/-- A value. -/
inductive Node where
  | null
  /-- What a tag refuses, or an alias inside the value that it names. -/
  | invalid
  | boolean (b : Bool)
  | integer (n : Int)
  /-- A number that is no integer, as it is spelled. -/
  | real (spelling : String)
  | text (s : String)
  | sequence (items : List Node)
  | mapping (members : List (Node × Node))
  deriving Repr, Inhabited

namespace Node

/-! ## Likeness -/

mutual

/-- Whether two values are alike, numbers and texts as they are spelled. -/
def same : Node → Node → Bool
  | .null, .null => true
  | .invalid, .invalid => true
  | .boolean a, .boolean b => a == b
  | .integer a, .integer b => a == b
  | .real a, .real b => a == b
  | .text a, .text b => a == b
  | .sequence a, .sequence b => sameItems a b
  | .mapping a, .mapping b => sameMembers a b
  | _, _ => false

/-- Whether two lists are alike, item by item. -/
def sameItems : List Node → List Node → Bool
  | [], [] => true
  | a :: as, b :: bs => same a b && sameItems as bs
  | _, _ => false

/-- Whether two mappings are alike, member by member. -/
def sameMembers : List (Node × Node) → List (Node × Node) → Bool
  | [], [] => true
  | (k, v) :: as, (l, w) :: bs => same k l && same v w && sameMembers as bs
  | _, _ => false

end

/-! ## Spellings -/

/-- An integer of 64 bits in decimal, with a sign or without. -/
def decimal? (cs : List Char) : Option Int :=
  (Number.readIntegerChars (Number.signedRange 64) cs).toOption

/-- An integer of 64 bits in another base, with a sign or without. -/
def integerIn? (base : Nat) (cs : List Char) : Option Int :=
  let (neg, digits) := Number.takeSign cs
  if digits.isEmpty then none
  else match Number.natIn? base digits with
    | some n =>
      let value : Int := if neg then -n else n
      if (Number.signedRange 64).holds value then some value else none
    | none => none

/-- Spellings of the numbers that are not finite. -/
def boundlessWords : List String :=
  [".inf", ".Inf", ".INF", "+.inf", "+.Inf", "+.INF", "-.inf", "-.Inf", "-.INF", ".nan", "NaN",
    ".NAN"]

/-- Whether a text spells a number. -/
def isReal (s : String) : Bool :=
  boundlessWords.contains s
    || (s.toList.any Char.isDigit && (Number.readDecimal s).toBool)

/-- The integer that a mark of its base, or a plus, begins. -/
def marked? : List Char → Option Int
  | '0' :: 'x' :: digits => integerIn? 16 digits
  | '0' :: 'o' :: digits => integerIn? 8 digits
  | '+' :: digits => decimal? digits
  | _ => none

/-- What a text without quotes is. -/
def ofPlain (s : String) : Node :=
  match marked? s.toList with
  | some n => .integer n
  | none =>
    if ["", "~", "null"].contains s then .null
    else if s = "true" then .boolean true
    else if s = "false" then .boolean false
    else match decimal? s.toList with
      | some n => .integer n
      | none => if isReal s then .real s else .text s

/-! ## Tags -/

/-- The handle that the core set of tags is known under. -/
def coreHandle : String := "tag:yaml.org,2002:"

/-- What a text without quotes is under a tag of the core set. -/
def ofTagged (suffix s : String) : Node :=
  match suffix with
  | "bool" => if s = "true" then .boolean true else if s = "false" then .boolean false else .invalid
  | "int" => (decimal? s.toList).elim .invalid .integer
  | "float" => if isReal s then .real s else .invalid
  | "null" => if s = "~" || s = "null" then .null else .invalid
  | _ => .text s

/-- What a text without quotes is under a tag, if it has one. -/
def ofScalar (tag? : Option (String × String)) (s : String) : Node :=
  match tag? with
  | none => ofPlain s
  | some (handle, suffix) => if handle = coreHandle then ofTagged suffix s else .text s

/-! ## Mappings -/

/-- The members that keys and values in turn make up. What is refused never counts as a key; what
follows it does instead. No two keys are alike. -/
def pairs : (key? : Option Node) → List Node → (done : List (Node × Node)) →
    Except YamlFault (List (Node × Node))
  | _, [], done => .ok done.reverse
  | none, .invalid :: rest, done => pairs none rest done
  | none, k :: rest, done => pairs (some k) rest done
  | some k, v :: rest, done =>
    if done.any fun m => same m.1 k then .error .duplicateKey else pairs none rest ((k, v) :: done)

/-- The mapping that keys and values in turn make up. -/
def ofPairs (nodes : List Node) : Except YamlFault Node := return .mapping (← pairs none nodes [])

end Node

end ClusterFixture.Yaml
