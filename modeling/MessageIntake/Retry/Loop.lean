import MessageIntake.Dialogue
import MessageIntake.Retry
import MessageIntake.Telemetry
/-!
# Attempting under a policy

An operation is called until it succeeds or the budget of the policy is used up, with the
policy's waits in between. What the operation is and what waiting means is left to the
surroundings.
-/

namespace MessageIntake.Retry

/-- What the loop asks for. -/
inductive Question where
  /-- The outcome of another call of the operation. -/
  | call
  /-- A random factor for a wait. -/
  | factor
  /-- That a span passes. -/
  | sleep (span : Span)
  deriving DecidableEq, Repr

/-- The interface of the loop around an operation with results of type `α`, failing with an
`ε`. -/
@[reducible] def api (ε α : Type) : Interface where
  Question := Question
  Answer
    | .call => Except ε α
    | .factor => Binary64
    | .sleep _ => Unit

variable {ε α : Type}

/-- The random factor of a wait; without jitter none is drawn. -/
def drawFactor (p : RetryPolicy) : Dialogue (api ε α) Telemetry Binary64 :=
  if p.jitter then .ask .factor .done else .done .one

/-- **The budget is used up.** -/
structure Exhausted (ε : Type) where
  attempts : Nat
  lastError : ε
  deriving DecidableEq, Repr

variable [ToString ε]

/-- The wording of it. -/
def Exhausted.message (e : Exhausted ε) : String :=
  "Max attempts (" ++ Nat.repr e.attempts ++ ") exceeded: " ++ toString e.lastError

/-- The log line of the last attempt. -/
def exhaustedLine (attempt : Nat) (error : ε) : Telemetry :=
  .line .warn "Max attempts reached"
    [("attempts", Nat.repr attempt), ("error", toString error)]

/-- The log line of an attempt that is followed by another. -/
def retryLine (p : RetryPolicy) (attempt : Nat) (error : ε) (wait : Span) : Telemetry :=
  .line .warn ("Attempt " ++ Nat.repr attempt ++ "/" ++ Nat.repr p.maxAttempts ++
    " failed (" ++ toString error ++ "), retrying in " ++ wait.text) []

/-- **Attempt number `attempt`** and all that follow it: each failure but the one that has
used up the budget is followed by a wait and another attempt. -/
def attemptFrom (p : RetryPolicy) (attempt : Nat) :
    Dialogue (api ε α) Telemetry (Except (Exhausted ε) α) :=
  .ask .call fun
    | .ok a => .done (.ok a)
    | .error e =>
      if spent : p.isExhausted attempt then
        .tell (exhaustedLine attempt e) (.done (.error ⟨attempt, e⟩))
      else
        (drawFactor p).bind fun factor =>
          let wait := p.backoff attempt factor
          .tell (retryLine p attempt e wait)
            (.ask (.sleep wait) fun _ => attemptFrom p (attempt + 1))
termination_by p.maxAttempts - attempt
decreasing_by
  have some : ¬p.maxAttempts ≤ attempt := fun le => spent (decide_eq_true le)
  omega

/-- **Attempting under a policy.** There is at least one attempt, and the last one is the
first that has used up the budget. -/
def run (p : RetryPolicy) : Dialogue (api ε α) Telemetry (Except (Exhausted ε) α) :=
  attemptFrom p 1

end MessageIntake.Retry
