/-
Tagging log lines with the scenario that is running.

A line that is a JSON object without a scenario gets one. Every other line stays as it is, and so
does every line while no scenario is set.
-/

import ClusterFixture.Json.Print
import ClusterFixture.Json.Read
import ClusterFixture.Text.Search
import ClusterFixture.Text.Utf8

set_option autoImplicit false

namespace ClusterFixture.Telemetry

open ClusterFixture.Text (Bytes)

/-- The key of the scenario in a log line. -/
def scenarioKey : String := "scenario"

/-- The line with a scenario, where it is an object that has none yet. The line ends as before. -/
def tagged? (line scenario : String) : Option String :=
  match Json.read? line with
  | some (.object members) =>
    if (Json.lookup? scenarioKey members).isSome then none
    else
      let text := Json.render (.object (Json.insert scenarioKey (.string scenario) members))
      some (if Text.endsWith line "\n" then text ++ "\n" else text)
  | _ => none

/-- The bytes of a record with the scenario, where there is one and the record is a line that takes
it. -/
def taggedRecord? (scenario : Option String) (bytes : Bytes) : Option Bytes := do
  let name ← scenario
  let line ← Text.ofUtf8? bytes
  (tagged? line name).map Text.utf8

/-! ## The running scenario and the sink of the log -/

/-- The scenario that is running, and what the sink was given, write by write. -/
structure Log where
  scenario : Option String := none
  chunks : List Bytes := []
  deriving Repr, Inhabited

namespace Log

/-- Starts a scenario. -/
def begin (l : Log) (scenario : String) : Log := ⟨some scenario, l.chunks⟩

/-- Ends the scenario. -/
def finish (l : Log) : Log := ⟨none, l.chunks⟩

/-- Puts bytes behind all others, and says how many were taken: all of them. -/
def put (l : Log) (bytes : Bytes) : Nat × Log := (bytes.length, ⟨l.scenario, l.chunks ++ [bytes]⟩)

/-- Writes a record, and says how many of its bytes were taken. A record with the scenario counts as
it was given, so that nobody writes the rest of it once more. -/
def write (l : Log) (bytes : Bytes) : Nat × Log :=
  match taggedRecord? l.scenario bytes with
  | some tagged => (bytes.length, (l.put tagged).2)
  | none => l.put bytes

/-- Writes until no byte is left, each time those that were not taken before. A write that takes
nothing ends it without success. -/
def writeAll (l : Log) (bytes : Bytes) : Option Log :=
  if bytes = [] then some l
  else
    let taken := (l.write bytes).1
    if taken = 0 then none else (l.write bytes).2.writeAll (bytes.drop taken)
termination_by bytes.length
decreasing_by
  have hlength : 0 < bytes.length := List.length_pos_iff.mpr ‹¬bytes = []›
  have htaken : 0 < (l.write bytes).1 := Nat.pos_of_ne_zero ‹¬(l.write bytes).1 = 0›
  rw [List.length_drop]
  omega

end Log

end ClusterFixture.Telemetry
