import MessageIntake.Span
/-!
# The health of a transport

A worker counts how often in a row it could not receive. From five times on its transport
is unhealthy, from ten times on critically so, and after each time the worker waits, twice
as long as the time before but at most a minute.
-/

namespace MessageIntake.Transport

/-- **A fault of the transport**, in receiving or in settling a record. -/
structure Fault where
  detail : String
  deriving DecidableEq, Repr

/-- The wording of a fault. -/
def Fault.message (f : Fault) : String := "transport error: " ++ f.detail

/-- **The health of a transport**: the number of faults in a row. -/
structure Health where
  streak : Nat
  deriving DecidableEq, Repr

namespace Health

/-- Nothing has gone wrong yet. -/
def initial : Health := ⟨0⟩

/-- From so many faults in a row on a transport is unhealthy. -/
def unhealthyStreak : Nat := 5

/-- From so many faults in a row on a transport is critically unhealthy. -/
def criticalStreak : Nat := 10

/-- The longest streak that is counted. -/
def streakLimit : Nat := 0xFFFFFFFF

/-- The transport is healthy. -/
def isHealthy (h : Health) : Bool := h.streak < unhealthyStreak

/-- The transport is critically unhealthy. -/
def isCritical (h : Health) : Bool := criticalStreak ≤ h.streak

/-- The health after a fault. -/
def afterFault (h : Health) : Health := ⟨Nat.min (h.streak + 1) streakLimit⟩

/-- The health after something was received. -/
def afterSuccess (_ : Health) : Health := initial

/-- A success now would end an unhealthy streak. -/
def recovers (h : Health) : Bool := !h.isHealthy

/-- The longest wait in seconds. -/
def backoffLimit : Nat := 60

/-- **The wait after a fault**: 1 s, 2 s, 4 s and so on, at most a minute. -/
def backoff (h : Health) : Span :=
  .ofSeconds (if h.streak - 1 < 6 then Nat.pow 2 (h.streak - 1) else backoffLimit)

/-- A wait lasts at most a minute. -/
theorem backoff_nanos_le (h : Health) :
    h.backoff.nanos ≤ (Span.ofSeconds backoffLimit).nanos := by
  have small : ∀ n < 6, Nat.pow 2 n ≤ backoffLimit := by decide
  unfold backoff
  split
  · exact Nat.mul_le_mul_right _ (small _ ‹_›)
  · exact Nat.le_refl _

example :
    (List.range 9).map (fun n => (backoff ⟨n⟩).seconds) = [1, 1, 2, 4, 8, 16, 32, 60, 60] := by
  decide

end Health

end MessageIntake.Transport
