/-
Waiting for the mirrors to change state.
-/

import ClusterFixture.Cluster.Transition
import ClusterFixture.Operation.Basic

set_option autoImplicit false

namespace ClusterFixture.Op

open ClusterFixture.Cluster (Transition Endpoint)
open ClusterFixture.Number (decimal)

variable {σ : Type}

/-- Counts in brackets, as the log shows them. -/
def countsText (counts : List Int) : String :=
  "[" ++ Text.joinWith ", " (counts.map decimal) ++ "]"

/-- The count that one query of a probe answers. -/
def probeCount (target : Sql.Target) (statement : String) : Op σ Int := do
  match (← queryAt target statement).head? with
  | some row => check (row.integer 0)
  | none => throw (noAnswer statement)

/-- The counts of one probe. -/
def probe (transition : Transition) (target : Sql.Target) : Op σ (List Int) :=
  transition.queries.mapM (probeCount target)

/-- The fault of waiting; one of running out of time says what did not come. -/
def waitingFault (transition : Transition) (f : Fault) : Fault :=
  if f.kind == .timeout then .detailed .timeout "Timed out" transition.timeoutText else f

/-- Waits for a transition as seen from an endpoint, and answers the last counts. -/
def waitFor (transition : Transition) (endpoint : Endpoint) : Op σ (List Int) := do
  let policy := (← settings).transitionPoll
  log .info .waiting "waiting for cluster transition"
    [("transition", .string transition.name), ("host", .string endpoint.host),
      ("port", .integer endpoint.port)]
  let polled := Poll.untilDone policy pause (fun attempt => do
    let counts ← probe transition endpoint.target
    log .debug .waiting "polled"
      [("attempt", .integer attempt), ("value", .string (countsText counts))]
    return counts) transition.isReached
  match ← attempt polled with
  | .error f => throw (waitingFault transition f)
  | .ok outcome =>
    log .info .waiting "cluster transition reached"
      [("transition", .string transition.name), ("attempts", .integer outcome.attempts),
        ("counts", .string (countsText outcome.value))]
    return outcome.value

/-- Waits until some segment tracks changes, and answers how many do. -/
def waitForChangeTracking (endpoint : Endpoint) : Op σ Int :=
  return (← waitFor .changeTracking endpoint).headD 0

/-- Waits until all segments agree with their mirrors and answer. -/
def waitForSync (endpoint : Endpoint) : Op σ Unit := do discard (waitFor .inSync endpoint)

/-- Waits until all segments that disagree with their mirrors are catching up. -/
def waitForResync (endpoint : Endpoint) : Op σ Unit := do discard (waitFor .resync endpoint)

end ClusterFixture.Op
