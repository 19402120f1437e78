import MessageIntake.Binary64
/-!
# Reading binary64 values from decimal text

A decimal is read exactly and rounded once. The text may carry a sign, may leave out the
digits on one side of the point, may have an exponent, and may be one of the words for the
values that are no finite numbers, in any case.
-/

namespace MessageIntake.Binary64

/-- The value nearest to `digits · 10 ^ exponent`. Far outside the range the answer is
known without the power: `digits < 10 ^ count`. -/
def ofDecimal (negative : Bool) (digits count : Nat) (exponent : Int) : Binary64 :=
  if digits == 0 then .finite negative 0
  else if exponent + count < -400 then .finite negative 0
  else if 400 < exponent then .infinity negative
  else
    ofUnitRatio negative (digits * Nat.pow 10 exponent.toNat * unitsPerOne)
      (Nat.pow 10 (-exponent).toNat)

/-- The number that a list of decimal digits writes. -/
def digitsValue (ds : List Char) : Nat :=
  ds.foldl (fun n c => n * 10 + (c.toNat - '0'.toNat)) 0

/-- The exponent after the mantissa: nothing, or `e`, a sign if wanted, and digits. -/
def readExponent : List Char → Option Int
  | [] => some 0
  | c :: rest =>
    if c == 'e' || c == 'E' then
      let (negative, ds) := match rest with
        | '+' :: r => (false, r)
        | '-' :: r => (true, r)
        | r => (false, r)
      if ds.isEmpty || !ds.all Char.isDigit then none
      else some (if negative then -(digitsValue ds : Int) else digitsValue ds)
    else none

/-- A number without its sign. -/
def readMagnitude (negative : Bool) (cs : List Char) : Option Binary64 :=
  let whole := cs.takeWhile Char.isDigit
  let rest := cs.dropWhile Char.isDigit
  let (fraction, rest) := match rest with
    | '.' :: r => (r.takeWhile Char.isDigit, r.dropWhile Char.isDigit)
    | r => ([], r)
  let ds := whole ++ fraction
  if ds.isEmpty then none
  else
    (readExponent rest).map fun e =>
      ofDecimal negative (digitsValue ds) ds.length (e - fraction.length)

/-- The words for values that are no finite numbers. -/
def readWord (negative : Bool) (cs : List Char) : Option Binary64 :=
  match String.ofList (cs.map Char.toLower) with
  | "inf" | "infinity" => some (.infinity negative)
  | "nan" => some (.nan negative)
  | _ => none

/-- **Reading a value**: a sign if wanted, then a number or a word. -/
def ofText? (s : String) : Option Binary64 :=
  let (negative, cs) := match s.toList with
    | '+' :: r => (false, r)
    | '-' :: r => (true, r)
    | r => (false, r)
  (readWord negative cs).or (readMagnitude negative cs)

end MessageIntake.Binary64
