import MessageIntake.Retry.Loop
/-!
# Rehearsing attempts

An operation whose outcomes are listed is attempted under a policy, on a clock that stands
still but for the waits. The clock shows whole milliseconds; a wait that ends in between is
over with the next one.
-/

namespace MessageIntake.Rehearsal

/-- **The rehearsal of an operation.** What it keeps is listed with the newest first. -/
structure Attempts (α : Type) where
  now : Nat
  /-- The outcome of the next call. -/
  outcome : Except String α
  /-- The outcomes after it; when there is none left the last one repeats. -/
  later : List (Except String α)
  callTimes : List Nat
  told : List Telemetry

namespace Attempts

variable {α : Type}

/-- The rehearsal at its start. -/
def opening (outcome : Except String α) (later : List (Except String α)) : Attempts α :=
  ⟨0, outcome, later, [], []⟩

/-- The rehearsal after a call. -/
def afterCall (a : Attempts α) : Attempts α :=
  let called := { a with callTimes := a.now :: a.callTimes }
  match a.later with
  | [] => called
  | next :: rest => { called with outcome := next, later := rest }

/-- **The surroundings of the attempts.** No wait is spread. -/
def surroundings : Dialogue.Surroundings (Retry.api String α) Telemetry (Attempts α) where
  answer
    | .call, a => (a.outcome, a.afterCall)
    | .factor, a => (.one, a)
    | .sleep span, a => ((), { a with now := a.now + span.millisUp })
  hear note a := { a with told := note :: a.told }

/-- **Attempting** under a policy. -/
def run (policy : RetryPolicy) (a : Attempts α) : Except (Retry.Exhausted String) α × Attempts α :=
  (Retry.run policy).run surroundings a

end Attempts

end MessageIntake.Rehearsal
