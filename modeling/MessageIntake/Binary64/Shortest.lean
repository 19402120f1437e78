import MessageIntake.Binary64
/-!
# The shortest decimal of a binary64 value

A finite value is the nearest binary64 value to every real in an interval around it, the
ends included when its significand is even. `Shortest.decimal` finds the decimal with the
fewest digits in that interval, and of those the nearest to the value. For one digit, two
digits and so on it tries the two neighbours of the value on that decimal grid: when a grid
point lies in the interval, so does one of the two.
-/

namespace MessageIntake.Binary64

/-- **A decimal**: `digits · 10 ^ exponent`. -/
structure Decimal where
  digits : Nat
  exponent : Int
  deriving DecidableEq, Repr

namespace Shortest

/-- The reals that round to a value, in quarter units. -/
structure Interval where
  lower : Nat
  upper : Nat
  /-- The ends round to the value too. -/
  closed : Bool

/-- The interval around `units`. Below a power of two the neighbour is half as far. -/
def interval (units : Nat) : Interval :=
  let shift := spacing units
  let above := Nat.pow 2 shift
  let below :=
    if shift > 0 && units == Nat.pow 2 (52 + shift) then Nat.pow 2 (shift - 1) else above
  { lower := 4 * units - 2 * below
    upper := 4 * units + 2 * above
    closed := units / Nat.pow 2 shift % 2 == 0 }

/-- The point `q` quarter units, scaled by `scale`, lies in the interval. -/
def Interval.holds (i : Interval) (q scale : Nat) : Bool :=
  if i.closed then i.lower * scale ≤ q && q ≤ i.upper * scale
  else i.lower * scale < q && q < i.upper * scale

/-- The number of decimal digits of a natural number. -/
def digitCount (n : Nat) : Nat := (Nat.toDigits 10 n).length

/-- The least `j ≥ start` for which `units · 10 ^ j` reaches one, among `fuel` of them. -/
def placesToOne (units : Nat) : Nat → Nat → Nat
  | 0, start => start
  | fuel + 1, start =>
    if unitsPerOne ≤ units * Nat.pow 10 start then start else placesToOne units fuel (start + 1)

/-- The exponent of ten of the leading digit of a positive number of units. -/
def leadingExponent (units : Nat) : Int :=
  if unitsPerOne ≤ units then (digitCount (units / unitsPerOne) : Int) - 1
  else -(placesToOne units 324 1 : Int)

/-- The nearest of the two neighbours of `units` on the grid of multiples of `10 ^ k` that
lie in the interval, an exact tie going to the even one. -/
def onGrid (units : Nat) (i : Interval) (k : Int) : Option Nat :=
  let point := unitsPerOne * Nat.pow 10 k.toNat
  let scale := Nat.pow 10 (-k).toNat
  let low := units * scale / point
  let high := low + 1
  match i.holds (4 * low * point) scale, i.holds (4 * high * point) scale with
  | false, false => none
  | true, false => some low
  | false, true => some high
  | true, true =>
    let down := units * scale - low * point
    let up := high * point - units * scale
    if down < up || (down == up && low % 2 == 0) then some low else some high

/-- The first grid that has a point in the interval, among `fuel` grids each ten times
finer than the one before. -/
def search (units : Nat) (i : Interval) : Nat → Int → Decimal
  | 0, k => ⟨units * Nat.pow 10 (-k).toNat / unitsPerOne, k⟩
  | fuel + 1, k =>
    match onGrid units i k with
    | some digits => ⟨digits, k⟩
    | none => search units i fuel (k - 1)

/-- Moves the zeros at the end of the digits into the exponent. -/
def strip : Nat → Decimal → Decimal
  | 0, d => d
  | fuel + 1, d =>
    if d.digits != 0 && d.digits % 10 == 0 then strip fuel ⟨d.digits / 10, d.exponent + 1⟩
    else d

/-- **The shortest decimal** of a positive number of units. Seventeen digits always
suffice. -/
def decimal (units : Nat) : Decimal :=
  strip 20 (search units (interval units) 17 (leadingExponent units))

end Shortest

/-- **How a value is written.** -/
structure Layout where
  /-- The exponents of the leading digit that are written in place, without `e`. -/
  inPlace : Int → Bool
  /-- A whole number keeps `.0`. -/
  keepPoint : Bool
  /-- A positive exponent carries its sign. -/
  plusSign : Bool
  /-- The texts of an infinity and of a value that is not a number. -/
  infinityText : String
  nanText : String

namespace Layout

/-- The digits of a decimal with its point put in place. -/
def inPlaceText (layout : Layout) (d : Decimal) : String :=
  let ds := Nat.toDigits 10 d.digits
  let whole := fun (cs : List Char) =>
    String.ofList cs ++ (if layout.keepPoint then ".0" else "")
  if 0 ≤ d.exponent then whole (ds ++ List.replicate d.exponent.toNat '0')
  else
    let places := (-d.exponent).toNat
    let padded := List.replicate (places + 1 - ds.length) '0' ++ ds
    let point := padded.length - places
    String.ofList (padded.take point) ++ "." ++ String.ofList (padded.drop point)

/-- The digits of a decimal with one before the point, and the exponent. -/
def scientificText (layout : Layout) (d : Decimal) : String :=
  let ds := Nat.toDigits 10 d.digits
  let e := d.exponent + ds.length - 1
  let mantissa := match ds with
    | [] => "0"
    | [c] => String.ofList [c]
    | c :: rest => String.ofList (c :: '.' :: rest)
  let sign := if e < 0 then "-" else if layout.plusSign then "+" else ""
  mantissa ++ "e" ++ sign ++ Nat.repr e.natAbs

/-- **The text of a value** in a layout. -/
def text (layout : Layout) : Binary64 → String
  | .nan _ => layout.nanText
  | .infinity negative => (if negative then "-" else "") ++ layout.infinityText
  | .finite negative units =>
    let body :=
      if units == 0 then (if layout.keepPoint then "0.0" else "0")
      else
        let d := Shortest.decimal units
        if layout.inPlace (d.exponent + (Shortest.digitCount d.digits : Int) - 1) then
          layout.inPlaceText d
        else layout.scientificText d
    (if negative then "-" else "") ++ body

end Layout

end MessageIntake.Binary64
