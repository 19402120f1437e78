import MessageIntake.Retry
import MessageIntake.Settings.Environment
/-!
# Settings of the retry policy

Every variable of the policy is read strictly, and the policy has to make sense: it allows
an attempt, its waits do not shrink, and the longest wait is not shorter than the first.
-/

namespace MessageIntake.Settings

/-- **What is wrong with the settings of a policy.** -/
inductive BackoffFault where
  | variable (fault : VariableFault)
  | noAttempts
  | badMultiplier
  | maxBelowInitial
  deriving DecidableEq, Repr

/-- The wording of a fault. -/
def BackoffFault.message : BackoffFault → String
  | .variable fault => fault.message
  | .noAttempts => "RETRY_MAX_ATTEMPTS must be at least 1"
  | .badMultiplier => "RETRY_BACKOFF_MULTIPLIER must be a finite number >= 1.0"
  | .maxBelowInitial => "RETRY_MAX_BACKOFF_MS must not be lower than RETRY_INITIAL_BACKOFF_MS"

namespace Backoff

/-- The policy in an environment, before it is checked. -/
def unchecked (env : Environment) : Except VariableFault RetryPolicy := do
  let d := RetryPolicy.default
  let maxAttempts ← env.strict .word32 "RETRY_MAX_ATTEMPTS" d.maxAttempts
  let initial ← env.strict .word64 "RETRY_INITIAL_BACKOFF_MS" d.initialBackoff.millis
  let max ← env.strict .word64 "RETRY_MAX_BACKOFF_MS" d.maxBackoff.millis
  let multiplier ← env.strict .float "RETRY_BACKOFF_MULTIPLIER" d.multiplier
  let jitter ← env.strict .truth "RETRY_JITTER" d.jitter
  return ⟨maxAttempts, .ofMillis initial, .ofMillis max, multiplier, jitter⟩

/-- What is wrong with a policy. -/
def fault? (p : RetryPolicy) : Option BackoffFault :=
  if p.maxAttempts = 0 then some .noAttempts
  else if !p.multiplier.isFinite || p.multiplier.less .one then some .badMultiplier
  else if p.maxBackoff.nanos < p.initialBackoff.nanos then some .maxBelowInitial
  else none

/-- **The policy in an environment.** -/
def ofEnvironment? (env : Environment) : Except BackoffFault RetryPolicy :=
  match unchecked env with
  | .error fault => .error (.variable fault)
  | .ok policy =>
    match fault? policy with
    | some fault => .error fault
    | none => .ok policy

end Backoff

end MessageIntake.Settings
