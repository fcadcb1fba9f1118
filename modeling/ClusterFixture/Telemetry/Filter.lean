/-
Filters of the log, and the lines that records become.

A filter lists directives, separated by commas. A directive names a level, or a part of the program
and perhaps a level for it; without one, everything of that part is kept. The most specific
directive for a record decides: the one with the longest name that the record's part begins with,
and of two alike the later.
-/

import ClusterFixture.Telemetry.Record
import ClusterFixture.Telemetry.Scenario
import ClusterFixture.Text.Case

set_option autoImplicit false

namespace ClusterFixture.Telemetry

/-! ## Directives -/

/-- A directive: records of the named parts are kept up to a rank of their level. -/
structure Directive where
  part? : Option String := none
  /-- The names of fields that a record must have. -/
  fields : List String := []
  rank : Nat
  deriving DecidableEq, Repr

/-- The rank that a word or a digit means; zero keeps nothing. -/
def rankOf? (word : String) : Option Nat :=
  match Text.lowerAscii word with
  | "off" => some 0
  | "error" => some 1
  | "warn" => some 2
  | "info" => some 3
  | "debug" => some 4
  | "trace" => some 5
  | digit => ["0", "1", "2", "3", "4", "5"].idxOf? digit

/-- A character of the name of a part. -/
def isPartChar (c : Char) : Bool := c.isAlphanum || c = '_' || c = ':' || c = '-'

/-- The fields in braces inside brackets; a name or a value beside them asks for a span, and none is
ever open. -/
def bracketFields? (content : List Char) : Option (List String) :=
  match content with
  | '\x7b' :: rest =>
    let inner := rest.takeWhile (· ≠ '\x7d')
    if inner.contains '=' then none else some [String.ofList inner]
  | _ => none

/-- The directives that a text between commas stands for: one, or none if it can never apply. -/
def readDirective? (text : String) : Option (List Directive) :=
  match rankOf? text with
  | some rank => some [{ rank }]
  | none =>
    let cs := text.toList
    let part := cs.takeWhile isPartChar
    let rest := cs.drop part.length
    let (bracket?, rest) := match rest with
      | '[' :: inside =>
        let content := inside.takeWhile (· ≠ ']')
        (some content, inside.drop content.length)
      | _ => (none, ']' :: rest)
    let rank? := match rest with
      | [']'] => some 5
      | ']' :: '=' :: level => if level.isEmpty then some 5 else rankOf? (String.ofList level)
      | _ => none
    let part? := if part.isEmpty || (rankOf? (String.ofList part)).isSome then none
      else some (String.ofList part)
    if part.isEmpty && bracket?.isNone then none
    else
      rank?.map fun rank =>
        match bracket? with
        | none => [{ part?, rank }]
        | some content => ((bracketFields? content).toList).map fun fields =>
            { part?, fields, rank }

/-! ## Filters -/

/-- A filter. -/
abbrev Filter := List Directive

namespace Filter

/-- The filter of where nothing else is said. -/
def usual : Filter := [{ rank := Level.info.rank }]

/-- The filter that a text spells, if it does. -/
def ofText? (text : String) : Option Filter :=
  let texts := (Text.split text ',').filter fun piece => !piece.isEmpty
  if texts.isEmpty then some [{ rank := Level.error.rank }]
  else (texts.mapM readDirective?).map List.flatten

/-- The filter that a variable spells; without a spelling, the usual one. -/
def ofVariable (value? : Option String) : Filter := (value?.bind ofText?).getD usual

/-- Whether a directive is meant for a record. -/
def concerns (d : Directive) (r : Record) : Bool :=
  (d.part?.all fun part => Text.startsWith r.source.path part)
    && d.fields.all fun name => name = "message" || r.fields.any fun f => f.1 == name

/-- How specific a directive is. -/
def weight (d : Directive) : Nat × Nat :=
  ((d.part?.map fun part => part.utf8ByteSize + 1).getD 0, d.fields.length)

/-- The more specific of two directives, or the second. -/
def sharper (a b : Directive) : Directive :=
  let (m, k) := weight a
  let (n, l) := weight b
  if n < m || (n == m && l < k) then a else b

/-- Whether a record is kept. -/
def keeps (f : Filter) (r : Record) : Bool :=
  match f.filter fun d => concerns d r with
  | [] => false
  | d :: rest => r.level.rank ≤ (rest.foldl sharper d).rank

end Filter

/-! ## Lines -/

/-- The line of a record. -/
def Record.line (r : Record) : String :=
  Json.render (.ofMembers [("level", .string r.level.name),
    ("fields", .ofMembers (("message", .string r.message) :: r.fields))]) ++ "\n"

/-- The log with the records that a filter keeps. -/
def Log.keep (l : Log) (f : Filter) (records : List Record) : Log :=
  (records.filter f.keeps).foldl (fun l r => (l.write (Text.utf8 r.line)).2) l

end ClusterFixture.Telemetry
