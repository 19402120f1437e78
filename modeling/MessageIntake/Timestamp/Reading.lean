import MessageIntake.Timestamp
import MessageIntake.Text.Utf8
/-!
# Reading instants

The form of RFC 3339: a date and a time of day in nineteen bytes, a fraction if wanted, and
the distance from UTC. Letters may be small, a blank may stand for `T`, and the minus sign
U+2212 for a hyphen in front of the distance. Second sixty is read at any minute.

What is wrong is found in a fixed order, from left to right; only the range of the distance
is checked last of all.
-/

namespace MessageIntake.Timestamp

/-- **Why a text is no instant.** -/
inductive Fault where
  | invalid
  | outOfRange
  | tooShort
  | tooLong
  deriving DecidableEq, Repr

/-- The wording of a fault. -/
def Fault.message : Fault → String
  | invalid => "input contains invalid characters"
  | outOfRange => "input is out of range"
  | tooShort => "premature end of input"
  | tooLong => "trailing input"

/-- The value of a decimal digit. -/
def digitValue? (b : UInt8) : Option Nat :=
  if 0x30 ≤ b && b ≤ 0x39 then some (b.toNat - 0x30) else none

/-- A number of exactly `width` digits, onto the number `acc` before them. -/
def digits : Nat → Nat → Bytes → Except Fault (Nat × Bytes)
  | 0, acc, rest => .ok (acc, rest)
  | _ + 1, _, [] => .error .tooShort
  | width + 1, acc, b :: rest =>
    match digitValue? b with
    | some d => digits width (acc * 10 + d) rest
    | none => .error .invalid

/-- One byte out of `allowed`. -/
def mark (allowed : List UInt8) : Bytes → Except Fault Bytes
  | [] => .error .tooShort
  | b :: rest => if allowed.contains b then .ok rest else .error .invalid

/-- The nanoseconds that a fraction writes; there is at least one digit, and those beyond
the ninth are passed over. -/
def fraction (bytes : Bytes) : Except Fault (Nat × Bytes) :=
  let ds := bytes.takeWhile fun b => (digitValue? b).isSome
  let rest := bytes.dropWhile fun b => (digitValue? b).isSome
  match ds with
  | [] => .error (if bytes.isEmpty then .tooShort else .invalid)
  | _ =>
    let kept := ds.take 9
    let value := kept.foldl (fun n b => n * 10 + (b.toNat - 0x30)) 0
    .ok (value * Nat.pow 10 (9 - kept.length), rest)

/-- The minutes of a distance, `00 … 59`. -/
def offsetMinutes : Bytes → Except Fault (Nat × Bytes)
  | a :: b :: rest =>
    match digitValue? a, digitValue? b with
    | some a, some b => if a < 6 then .ok (a * 10 + b, rest) else .error .outOfRange
    | _, _ => .error .invalid
  | _ => .error .tooShort

/-- The sign in front of a distance: true for west of UTC. -/
def offsetSign : Bytes → Except Fault (Bool × Bytes)
  | [] => .error .tooShort
  | 0x2b :: rest => .ok (false, rest)
  | 0x2d :: rest => .ok (true, rest)
  | 0xe2 :: 0x88 :: 0x92 :: rest => .ok (true, rest)
  | _ => .error .invalid

/-- The hours of a distance. -/
def offsetHours : Bytes → Except Fault (Nat × Bytes)
  | a :: b :: rest =>
    match digitValue? a, digitValue? b with
    | some a, some b => .ok (a * 10 + b, rest)
    | _, _ => .error .invalid
  | _ => .error .tooShort

/-- **The distance from UTC** in seconds: `Z`, or a sign with hours and minutes. -/
def offset (bytes : Bytes) : Except Fault (Int × Bytes) :=
  match bytes with
  | 0x5a :: rest | 0x7a :: rest => .ok (0, rest)
  | _ => do
    let (west, rest) ← offsetSign bytes
    let (hours, rest) ← offsetHours rest
    let rest ← mark [0x3a] rest
    let (minutes, rest) ← offsetMinutes rest
    let seconds : Int := hours * 3600 + minutes * 60
    .ok (if west then -seconds else seconds, rest)

/-- A fraction if the point is there. -/
def optionalFraction : Bytes → Except Fault (Nat × Bytes)
  | 0x2e :: rest => fraction rest
  | rest => .ok (0, rest)

/-- **Reading an instant.** -/
def ofBytes? (bytes : Bytes) : Except Fault Timestamp := do
  if bytes.length < 19 then throw .tooShort
  let (year, rest) ← digits 4 0 bytes
  let rest ← mark [0x2d] rest
  let (month, rest) ← digits 2 0 rest
  let rest ← mark [0x2d] rest
  let (day, rest) ← digits 2 0 rest
  let date : Date := ⟨year, month, day⟩
  if !date.isValid then throw .outOfRange
  let rest ← mark [0x54, 0x74, 0x20] rest
  let (hour, rest) ← digits 2 0 rest
  let rest ← mark [0x3a] rest
  let (minute, rest) ← digits 2 0 rest
  let rest ← mark [0x3a] rest
  let (second, rest) ← digits 2 0 rest
  let (nanos, rest) ← optionalFraction rest
  if hour ≥ 24 || minute ≥ 60 || second > 60 then throw .outOfRange
  let (offset, rest) ← offset rest
  if !rest.isEmpty then throw .tooLong
  if offset.natAbs ≥ 86400 then throw .outOfRange
  let leap := second == 60
  let secondOfDay := hour * 3600 + minute * 60 + (if leap then 59 else second)
  return {
    seconds := date.dayNumber * 86400 + secondOfDay - offset
    nanos := nanos + (if leap then nanosPerSecond else 0) }

/-- Reading an instant from text. -/
def ofText? (s : String) : Except Fault Timestamp :=
  ofBytes? (Utf8.encode s)

end MessageIntake.Timestamp
