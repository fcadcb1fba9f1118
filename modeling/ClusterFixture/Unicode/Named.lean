/-
Classes of characters by the names that patterns give them.

Names are compared without blanks, hyphens, low lines and letter case, and without an `is` in front.
A name alone stands for a yes-or-no property, a general category or a script, in this order; a name
with a value says which of these is meant.
-/

import ClusterFixture.Unicode.Table

set_option autoImplicit false

namespace ClusterFixture.Unicode

/-! ## Names -/

/-- The characters of a name that count. -/
def significant (cs : List Char) : List Char :=
  (cs.filter fun c => c.toNat < 0x80 && c != ' ' && c != '_' && c != '-').map Char.toLower

/-- A name as the tables spell it. A lone `isc` keeps its start: it is a name of its own. -/
def plainName (cs : List Char) : String :=
  let s := match cs with
    | i :: s :: rest =>
      if i.toLower = 'i' && s.toLower = 's' then
        if significant rest = ['c'] then ['i', 's', 'c'] else significant rest
      else significant cs
    | _ => significant cs
  String.ofList s

/-! ## Classes -/

/-- The last code point. -/
def lastCodePoint : Nat := 0x10FFFF

/-- The general categories that a letter stands for. -/
def categoryGroups : List (String × List String × List String) := [
  ("l", ["letter"], ["lu", "ll", "lt", "lm", "lo"]), ("lc", ["casedletter"], ["lu", "ll", "lt"]),
  ("m", ["mark", "combiningmark"], ["mn", "mc", "me"]), ("n", ["number"], ["nd", "nl", "no"]),
  ("p", ["punctuation", "punct"], ["pc", "pd", "ps", "pe", "pi", "pf", "po"]),
  ("s", ["symbol"], ["sm", "sc", "sk", "so"]), ("z", ["separator"], ["zs", "zl", "zp"]),
  ("c", ["other"], ["cc", "cf", "cs", "co", "cn"])]

/-- The ranges of a general category or of several. -/
def categoryNamed? (name : String) : Option (List CodeRange) :=
  match named? categories name with
  | some ranges => some ranges
  | none =>
    if name = "any" then some [(0, lastCodePoint)]
    else if name = "ascii" then some [(0, 0x7F)]
    else if name = "assigned" then some (complementFrom 0 (category "cn"))
    else
      (categoryGroups.find? fun (short, long, _) => short == name || long.contains name).map
        fun (_, _, members) => members.flatMap category

/-- The short names that belong to a general category although a property has them too. -/
def categoryNames : List String := ["cf", "sc", "lc"]

/-- The ranges of the class that a name stands for. -/
def classNamed? (cs : List Char) : Option (List CodeRange) :=
  let name := plainName cs
  let property := if categoryNames.contains name then none else named? properties name
  (property.or (categoryNamed? name)).or (named? scripts name)

/-- What a version has: what it added itself, and what the versions before it did. -/
def agedUpTo? (version : String) : Option (List CodeRange) := do
  let last ← ages.findIdx? fun e => e.names.contains version
  return (ages.take (last + 1)).flatMap Entry.ranges

/-- The ranges of the class that a property has for a value. -/
def classValued? (property value : List Char) : Option (List CodeRange) :=
  let value := plainName value
  match plainName property with
  | "gc" | "generalcategory" => categoryNamed? value
  | "sc" | "script" => named? scripts value
  | "scx" | "scriptextensions" => (named? scriptExtensions value).or (named? scripts value)
  | "gcb" | "graphemeclusterbreak" => named? graphemeBreaks value
  | "wb" | "wordbreak" => named? wordBreaks value
  | "sb" | "sentencebreak" => named? sentenceBreaks value
  | "age" => agedUpTo? value
  | _ => none

/-! ## Characters of words -/

/-- The characters that words consist of. -/
def wordRanges : List CodeRange :=
  property "alphabetic" ++ ["mn", "mc", "me", "nd", "pc"].flatMap category ++ property "joincontrol"

/-- The decimal digits of all scripts. -/
def digitRanges : List CodeRange := category "nd"

/-- The blanks. -/
def spaceRanges : List CodeRange := property "whitespace"

end ClusterFixture.Unicode
