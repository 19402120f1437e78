/-!
# Spans of time

How long something lasts, in nanoseconds. A span is written in the largest of the units
second, millisecond, microsecond and nanosecond of which it holds at least one, with the
fraction that is needed.
-/

namespace MessageIntake

/-- **A span of time.** -/
structure Span where
  nanos : Nat
  deriving DecidableEq, Repr

namespace Span

/-- No time at all. -/
def zero : Span := ⟨0⟩

/-- A whole number of milliseconds. -/
def ofMillis (n : Nat) : Span := ⟨n * 1000000⟩

/-- A whole number of seconds. -/
def ofSeconds (n : Nat) : Span := ⟨n * 1000000000⟩

/-- The whole milliseconds in a span. -/
def millis (s : Span) : Nat := s.nanos / 1000000

/-- The milliseconds until a span is over, counted in whole ones. -/
def millisUp (s : Span) : Nat := (s.nanos + 999999) / 1000000

/-- The whole seconds in a span. -/
def seconds (s : Span) : Nat := s.nanos / 1000000000

/-- The shorter of two spans. -/
def min (a b : Span) : Span := if b.nanos < a.nanos then b else a

theorem min_nanos_le_left (a b : Span) : (a.min b).nanos ≤ a.nanos := by
  unfold min
  split
  · exact Nat.le_of_lt ‹_›
  · exact Nat.le_refl _

theorem min_nanos_le_right (a b : Span) : (a.min b).nanos ≤ b.nanos := by
  unfold min
  split
  · exact Nat.le_refl _
  · exact Nat.le_of_not_lt ‹_›

/-- `n` units of which one is `10 ^ places` parts, with the fraction it needs. -/
def unitText (parts places : Nat) (unit : String) : String :=
  let fraction := Nat.toDigits 10 (parts % Nat.pow 10 places)
  let padded := List.replicate (places - fraction.length) '0' ++ fraction
  let kept := (padded.reverse.dropWhile (· == '0')).reverse
  let point := if kept.isEmpty then [] else '.' :: kept
  Nat.repr (parts / Nat.pow 10 places) ++ String.ofList point ++ unit

/-- **The text of a span**: `1.5s`, `10ms`, `1.5µs`, `0ns`. -/
def text (s : Span) : String :=
  if s.nanos ≥ 1000000000 then unitText s.nanos 9 "s"
  else if s.nanos ≥ 1000000 then unitText s.nanos 6 "ms"
  else if s.nanos ≥ 1000 then unitText s.nanos 3 "µs"
  else unitText s.nanos 0 "ns"

end Span

end MessageIntake
