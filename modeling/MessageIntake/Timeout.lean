import MessageIntake.Span
/-!
# Time limits

Work under a limit ends with its result, or is given up when the limit is reached first.
Timers ring on whole milliseconds, the first not before their time. Where work and limit
end together, the work counts: it is looked at first.
-/

namespace MessageIntake.Timeout

/-- Work was given up after its limit. -/
structure Elapsed where
  limit : Span
  deriving DecidableEq, Repr

/-- The wording of it. -/
def Elapsed.message (e : Elapsed) : String := "Operation timed out after " ++ e.limit.text

/-- **Work under a limit**, started at 0 ms: `duration` is how long it takes to give
`result`, and `none` if it never ends. With the end of it all in milliseconds. -/
def run {α : Type} (limit : Span) (duration : Option Span) (result : α) :
    Except Elapsed α × Nat :=
  match duration with
  | none => (.error ⟨limit⟩, limit.millisUp)
  | some d =>
    if d.millisUp ≤ limit.millisUp then (.ok result, d.millisUp)
    else (.error ⟨limit⟩, limit.millisUp)

end MessageIntake.Timeout
