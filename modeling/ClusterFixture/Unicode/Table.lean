/-
Reading the tables of the character database.

A class of characters is a list of ranges of code points. A named entry of a table gives a class; a
run of a case table gives the images of a range.
-/

import ClusterFixture.Text.Blank
import ClusterFixture.Text.Search
import ClusterFixture.Number.Integer
import ClusterFixture.Unicode.Category
import ClusterFixture.Unicode.Script
import ClusterFixture.Unicode.Property
import ClusterFixture.Unicode.CaseTable
import ClusterFixture.Unicode.Segmentation
import ClusterFixture.Unicode.Age

set_option autoImplicit false

namespace ClusterFixture.Unicode

open ClusterFixture

/-! ## Classes -/

/-- A range of code points, ends included. -/
abbrev CodeRange := Nat × Nat

/-- Whether a code point lies in one of the ranges. -/
def holds (ranges : List CodeRange) (n : Nat) : Bool :=
  ranges.any fun (first, last) => first ≤ n && n ≤ last

/-- The code points outside the ranges, for ranges in ascending order without overlap; `next` is
the first code point not yet passed. -/
def complementFrom (next : Nat) : List CodeRange → List CodeRange
  | [] => if next ≤ 0x10FFFF then [(next, 0x10FFFF)] else []
  | (first, last) :: rest =>
    if next < first then (next, first - 1) :: complementFrom (last + 1) rest
    else complementFrom (max next (last + 1)) rest

/-- A range written as one code point or two with a hyphen between them. -/
def codeRange? (word : List Char) : Option CodeRange :=
  match Text.cutAt '-' word with
  | none => (Number.natIn? 16 word).map fun n => (n, n)
  | some (first, last) => do return (← Number.natIn? 16 first, ← Number.natIn? 16 last)

/-- A named class of a table. -/
structure Entry where
  names : List String
  ranges : List CodeRange
  deriving Repr

/-- The entries that a list of words writes; the words before the first name are skipped. -/
def entriesOf (words : List String) : List Entry :=
  (words.foldr (fun word (state : List Entry × List CodeRange) =>
    let cs := word.toList
    if cs.getLast? = some ':' then
      (⟨(Text.splitAt (· == '/') cs.dropLast).map String.ofList, state.2⟩ :: state.1, [])
    else (state.1, (codeRange? cs).toList ++ state.2)) ([], [])).1

/-- The ranges of the entry with a name. -/
def named? (entries : List Entry) (name : String) : Option (List CodeRange) :=
  (entries.find? fun e => e.names.contains name).map Entry.ranges

/-- The general categories. -/
def categories : List Entry := entriesOf (Text.words categoryTable)

/-- The scripts. -/
def scripts : List Entry := entriesOf (Text.words scriptTable)

/-- The scripts with all characters used in them, where that differs from their own. -/
def scriptExtensions : List Entry := entriesOf (Text.words scriptExtensionTable)

/-- The yes-or-no properties. -/
def properties : List Entry := entriesOf (Text.words propertyTable)

/-- What counts where texts are divided into graphemes. -/
def graphemeBreaks : List Entry := entriesOf (Text.words graphemeBreakTable)

/-- What counts where they are divided into words. -/
def wordBreaks : List Entry := entriesOf (Text.words wordBreakTable)

/-- What counts where they are divided into sentences. -/
def sentenceBreaks : List Entry := entriesOf (Text.words sentenceBreakTable)

/-- The versions, with what each added. -/
def ages : List Entry := entriesOf (Text.words ageTable)

/-- The ranges of a general category. -/
def category (name : String) : List CodeRange := (named? categories name).getD []

/-- The ranges of a property. -/
def property (name : String) : List CodeRange := (named? properties name).getD []

/-! ## Case mappings -/

/-- A range of code points, every `step`-th of which is mapped, and the image of the first. -/
structure CaseRun where
  first : Nat
  last : Nat
  step : Nat
  image : Nat
  deriving Repr

/-- A run written as a range, an optional step and the first image. -/
def caseRun? (word : List Char) : Option CaseRun := do
  let (range, image) ← Text.cutAt '>' word
  let (range, step) := match Text.cutAt '/' range with
    | some (range, _) => (range, 2)
    | none => (range, 1)
  let (first, last) ← codeRange? range
  return ⟨first, last, step, ← Number.natIn? 16 image⟩

/-- The runs of a table. -/
def caseRuns (table : String) : List CaseRun :=
  (Text.words table).filterMap fun word => caseRun? word.toList

/-- The image of a code point under a run, if it is mapped. -/
def CaseRun.image? (r : CaseRun) (n : Nat) : Option Nat :=
  if r.first ≤ n && n ≤ r.last && (n - r.first) % r.step == 0 then some (r.image + (n - r.first))
  else none

/-- The image of a code point, which is itself where no run maps it. -/
def mapCase (runs : List CaseRun) (n : Nat) : Nat := (runs.findSome? (·.image? n)).getD n

/-- The simple lower case mapping. -/
def lowerRuns : List CaseRun := caseRuns lowerTable

/-- The simple case folding. -/
def foldRuns : List CaseRun := caseRuns foldTable

end ClusterFixture.Unicode
