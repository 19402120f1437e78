import MessageIntake.Binary64.Reading
import MessageIntake.Span
/-!
# Retry policies

How often something is attempted, and how long to wait in between. The wait after attempt
`n` is `initial · multiplier ^ (n - 1)` milliseconds, at most the policy's longest wait, and
may be spread by a random factor between 0.7 and 1.3.

The product is taken in binary64 values, as the multiplier is one; the longest wait is a
bound even where the power overflows.
-/

namespace MessageIntake

/-- **A retry policy.** -/
structure RetryPolicy where
  /-- The number of attempts, the first one included. -/
  maxAttempts : Nat
  /-- The wait after the first attempt. -/
  initialBackoff : Span
  /-- No wait is longer. -/
  maxBackoff : Span
  /-- By how much each wait exceeds the one before; below one counts as one. -/
  multiplier : Binary64
  /-- Each wait is spread by a random factor. -/
  jitter : Bool
  deriving DecidableEq, Repr

namespace RetryPolicy

/-- The policy that holds where nothing else is set: five attempts, after 1, 5, 25 and 125
seconds. -/
def default : RetryPolicy where
  maxAttempts := 5
  initialBackoff := .ofMillis 1000
  maxBackoff := .ofMillis 660000
  multiplier := .ofNat 5
  jitter := false

/-- The greatest exponent of the multiplier. -/
def exponentLimit : Nat := 0x7FFFFFFF

/-- The longest span in whole milliseconds that is counted. -/
def millisLimit : Nat := 0xFFFFFFFFFFFFFFFF

/-- By how much a random factor may differ from one. -/
def maxJitter : Binary64 := .ofDecimal false 3 1 (-1)

/-- A span times a factor, in whole milliseconds. -/
def stretch (s : Span) (factor : Binary64) : Span :=
  .ofMillis (((Binary64.ofNat s.millis).mul factor).toNatSaturating millisLimit)

/-- **The wait after an attempt** before it is spread. -/
def baseBackoff (p : RetryPolicy) (attempt : Nat) : Span :=
  let exponent := Nat.min (attempt - 1) exponentLimit
  let raw := (Binary64.ofNat p.initialBackoff.millis).mul
    ((p.multiplier.maximum .one).power exponent)
  .ofMillis ((raw.minimum (.ofNat p.maxBackoff.millis)).toNatSaturating millisLimit)

/-- **The wait after an attempt**, `factor` being the random factor drawn for it. -/
def backoff (p : RetryPolicy) (attempt : Nat) (factor : Binary64) : Span :=
  let base := p.baseBackoff attempt
  (if p.jitter then stretch base factor else base).min p.maxBackoff

/-- No wait is longer than the policy's longest one, whatever factor was drawn. -/
theorem backoff_nanos_le (p : RetryPolicy) (attempt : Nat) (factor : Binary64) :
    (p.backoff attempt factor).nanos ≤ p.maxBackoff.nanos :=
  Span.min_nanos_le_right _ _

/-- The attempt has used up the budget. -/
def isExhausted (p : RetryPolicy) (attempt : Nat) : Bool := p.maxAttempts ≤ attempt

/-- The last attempt after which the policy waits. -/
def lastRetryAttempt (p : RetryPolicy) : Nat := Nat.max (p.maxAttempts - 1) 1

/-- **The longest wait** after an attempt that is followed by another, spread included. -/
def longestBackoff (p : RetryPolicy) : Span :=
  let base := p.baseBackoff p.lastRetryAttempt
  if p.jitter then (stretch base (Binary64.one.add maxJitter)).min p.maxBackoff
  else base

/-- Why a policy does not fit a consumer: a worker that waits does not poll, and a consumer
that has not polled for its interval is put out of its group. -/
structure Overlong where
  longest : Span
  attempt : Nat
  maxAttempts : Nat
  pollIntervalMillis : Nat

/-- The wording of it. -/
def Overlong.message (o : Overlong) : String :=
  "retry backoff of up to " ++ Nat.repr o.longest.millis ++ "ms (attempt " ++
    Nat.repr o.attempt ++ " of " ++ Nat.repr o.maxAttempts ++
    ") must be shorter than KAFKA_MAX_POLL_INTERVAL_MS=" ++ Nat.repr o.pollIntervalMillis

/-- **The longest wait ends before the consumer has to poll again.** -/
def fitsPollInterval (p : RetryPolicy) (pollIntervalMillis : Nat) : Except Overlong Unit :=
  if (Span.ofMillis pollIntervalMillis).nanos ≤ p.longestBackoff.nanos then
    .error ⟨p.longestBackoff, p.lastRetryAttempt, p.maxAttempts, pollIntervalMillis⟩
  else .ok ()

end RetryPolicy

end MessageIntake
