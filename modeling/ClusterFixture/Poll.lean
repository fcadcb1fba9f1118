/-
Polling: probing again and again at a fixed interval until what is seen will do.

The first probe is made at once. Each further one follows a pause, and there are at most as many of
them as the policy allows. A probe that fails ends the polling with its fault.
-/

import ClusterFixture.Fault

set_option autoImplicit false

namespace ClusterFixture

/-! ## Policies -/

/-- How often and how many more times to probe. -/
structure PollPolicy where
  /-- The pause between two probes, in milliseconds. -/
  interval : Nat
  /-- The number of probes after the first one. -/
  attempts : Nat
  deriving DecidableEq, Repr, Inhabited

namespace PollPolicy

/-- The policy for changes of mirrors: every half minute, eighty times. -/
def transition : PollPolicy := ⟨30000, 80⟩

/-- The policy for creating and removing databases: every second, ten times. -/
def databaseRetry : PollPolicy := ⟨1000, 10⟩

end PollPolicy

/-- A number below 1000 as a fraction in three places, without the zeros at its end. -/
def thousandths (n : Nat) : String :=
  let digits := List.replicate (3 - (Nat.toDigits 10 n).length) '0' ++ Nat.toDigits 10 n
  String.ofList (digits.reverse.dropWhile (· == '0')).reverse

/-- A span of so many milliseconds, in the largest unit that it reaches. -/
def durationText (ms : Nat) : String :=
  if ms = 0 then "0ns"
  else if ms < 1000 then ms.repr ++ "ms"
  else if ms % 1000 = 0 then (ms / 1000).repr ++ "s"
  else (ms / 1000).repr ++ "." ++ thousandths (ms % 1000) ++ "s"

/-! ## Polling -/

/-- What was seen last, and the number of probes after the first. -/
structure PollOutcome (α : Type) where
  value : α
  attempts : Nat
  deriving DecidableEq, Repr

namespace Poll

variable {m : Type → Type} {α : Type}

/-- Probes as attempt number `attempt`, then at most `left` more times, with a pause before each of
those. Nothing will do where no probe's answer does. -/
def within? [Monad m] (pause : m Unit) (probe : Nat → m α) (done : α → Bool) :
    Nat → Nat → m (Option (PollOutcome α))
  | 0, attempt => do
    let value ← probe attempt
    return if done value then some ⟨value, attempt⟩ else none
  | left + 1, attempt => do
    let value ← probe attempt
    if done value then return some ⟨value, attempt⟩
    else
      pause
      within? pause probe done left (attempt + 1)

/-- The fault of a polling in which no answer would do. -/
def exhausted (policy : PollPolicy) : Fault :=
  .detailed .timeout "Timed out"
    ("condition not met after " ++ policy.attempts.repr ++ " attempts every "
      ++ durationText policy.interval)

/-- Probes until `done` holds of what is seen. -/
def untilDone [Monad m] [MonadExceptOf Fault m] (policy : PollPolicy) (pause : Nat → m Unit)
    (probe : Nat → m α) (done : α → Bool) : m (PollOutcome α) := do
  match ← within? (pause policy.interval) probe done policy.attempts 0 with
  | some outcome => return outcome
  | none => throw (exhausted policy)

end Poll

end ClusterFixture
