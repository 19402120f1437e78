import MessageIntake.Calendar
/-!
# Instants of time

An instant in UTC: seconds since 1 January 1970 without leap seconds, and nanoseconds. A
leap second is the second before it with a thousand million nanoseconds more.

Instants are written in the form of RFC 3339 with the mark `Z`, with the fewest of 0, 3, 6
or 9 digits of a fraction that are exact. A year outside `0000 … 9999` carries its sign.
-/

namespace MessageIntake

/-- **An instant.** -/
structure Timestamp where
  seconds : Int
  nanos : Nat
  deriving DecidableEq, Repr, Inhabited

namespace Timestamp

/-- The nanoseconds of a second. -/
def nanosPerSecond : Nat := 1000000000

/-- The start of 1970. -/
def epoch : Timestamp := ⟨0, 0⟩

/-- The start of 2000. -/
def millennium : Timestamp := ⟨946684800, 0⟩

/-- **Microseconds** since 1970. Those between the instant and the start of 2000 are made
whole, so that both sides of it are alike. -/
def micros (t : Timestamp) : Int :=
  Int.tdiv ((t.seconds - millennium.seconds) * nanosPerSecond + t.nanos) 1000 +
    millennium.seconds * 1000000

/-- The instant so many microseconds after 1970. -/
def ofMicros (n : Int) : Timestamp := ⟨n.fdiv 1000000, (n.fmod 1000000).toNat * 1000⟩

example : micros ⟨0, 1999⟩ = 2 ∧ micros ⟨946684800, 1999⟩ = 946684800000001 := by decide

/-- The day an instant falls on. -/
def date (t : Timestamp) : Date := .ofDayNumber (t.seconds.fdiv 86400)

/-- The year an instant falls in. -/
def year (t : Timestamp) : Int := t.date.year

/-- The digits of `n`, padded with zeros to `width`. -/
def padded (width n : Nat) : String :=
  let ds := Nat.toDigits 10 n
  String.ofList (List.replicate (width - ds.length) '0' ++ ds)

/-- A year in four digits, or with its sign where those do not hold it. -/
def yearText (year : Int) : String :=
  if 0 ≤ year && year ≤ 9999 then padded 4 year.toNat
  else (if year < 0 then "-" else "+") ++ padded 4 year.natAbs

/-- The fraction of a second, in the fewest of 0, 3, 6 or 9 digits. -/
def fractionText (nanos : Nat) : String :=
  if nanos == 0 then ""
  else if nanos % 1000000 == 0 then "." ++ padded 3 (nanos / 1000000)
  else if nanos % 1000 == 0 then "." ++ padded 6 (nanos / 1000)
  else "." ++ padded 9 nanos

/-- **The text of an instant**; a leap second shows as second sixty. -/
def text (t : Timestamp) : String :=
  let d := t.date
  let secondOfDay := (t.seconds.fmod 86400).toNat
  let leap := t.nanos / nanosPerSecond
  yearText d.year ++ "-" ++ padded 2 d.month ++ "-" ++ padded 2 d.day ++ "T" ++
    padded 2 (secondOfDay / 3600) ++ ":" ++ padded 2 (secondOfDay / 60 % 60) ++ ":" ++
    padded 2 (secondOfDay % 60 + leap) ++ fractionText (t.nanos % nanosPerSecond) ++ "Z"

end Timestamp

end MessageIntake
