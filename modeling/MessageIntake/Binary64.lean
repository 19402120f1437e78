/-!
# Binary64 values

The 64-bit binary floating-point values of IEEE 754, as exact numbers. A finite value is a
sign and a whole number of *units*, the unit being `2⁻¹⁰⁷⁴`, the least positive value; every
finite value is a whole number of them. Arithmetic is exact on units and rounded once, to
the nearest representable value with ties to the even significand.

Only what the library computes with is here: conversion from and to whole numbers and bit
patterns, order, `min` and `max`, sum, product, quotient, and powers by repeated squaring.
-/

namespace MessageIntake

/-- **A binary64 value**: not a number, an infinity, or a finite number of units of
`2⁻¹⁰⁷⁴`. Zero has a sign, and so has a value that is not a number. -/
inductive Binary64 where
  | nan (negative : Bool)
  | infinity (negative : Bool)
  | finite (negative : Bool) (units : Nat)
  deriving DecidableEq, Repr

namespace Binary64

/-- The units that make up the number one. -/
def unitsPerOne : Nat := Nat.pow 2 1074

/-- The least number of units that is too large for a finite value. -/
def unitsLimit : Nat := Nat.pow 2 2098

/-- The exponent of two that separates neighbouring values around `q` units: significands
have 53 bits. -/
def spacing (q : Nat) : Nat := q.log2 - 52

/-- **Rounding**: the representable number of units nearest to `num / den`, of two equally
near the one with the even significand. It may reach `unitsLimit`. -/
def roundUnits (num den : Nat) : Nat :=
  let shift := spacing (num / den)
  let step := den * Nat.pow 2 shift
  let m := num / step
  let r := num % step
  let m' := if 2 * r > step || (2 * r == step && m % 2 == 1) then m + 1 else m
  m' * Nat.pow 2 shift

/-- The value of `num / den` units with the given sign, rounded; beyond the finite values
an infinity. -/
def ofUnitRatio (negative : Bool) (num den : Nat) : Binary64 :=
  let units := roundUnits num den
  if units < unitsLimit then .finite negative units else .infinity negative

/-- Positive zero. -/
def zero : Binary64 := .finite false 0

/-- The value nearest to a whole number. -/
def ofNat (n : Nat) : Binary64 := ofUnitRatio false (n * unitsPerOne) 1

/-- The number one. -/
def one : Binary64 := .finite false unitsPerOne

/-- The sign bit. -/
def isNegative : Binary64 → Bool
  | nan negative | infinity negative | finite negative _ => negative

/-- The value with the sign turned round. -/
def neg : Binary64 → Binary64
  | nan negative => .nan !negative
  | infinity negative => .infinity !negative
  | finite negative units => .finite (!negative) units

/-- The value is zero, of either sign. -/
def isZero : Binary64 → Bool
  | finite _ 0 => true
  | _ => false

/-- The value is neither infinite nor "not a number". -/
def isFinite : Binary64 → Bool
  | finite .. => true
  | _ => false

/-! ### Order -/

/-- Where the value lies on the line of units, the infinities at both ends; nowhere if it
is not a number. -/
def place : Binary64 → Option Int
  | nan _ => none
  | infinity negative => some (if negative then -(unitsLimit : Int) else unitsLimit)
  | finite negative units => some (if negative then -(units : Int) else units)

/-- `a < b`, false if either is not a number. -/
def less (a b : Binary64) : Bool :=
  match a.place, b.place with
  | some x, some y => x < y
  | _, _ => false

/-- The lesser of two values; an operand that is not a number is passed over. -/
def minimum (a b : Binary64) : Binary64 :=
  match a, b with
  | nan _, _ => b
  | _, nan _ => a
  | _, _ => if b.less a then b else a

/-- The greater of two values; an operand that is not a number is passed over. -/
def maximum (a b : Binary64) : Binary64 :=
  match a, b with
  | nan _, _ => b
  | _, nan _ => a
  | _, _ => if a.less b then b else a

/-! ### Arithmetic -/

/-- The product, rounded; zero times infinity is not a number. -/
def mul (a b : Binary64) : Binary64 :=
  let negative := a.isNegative != b.isNegative
  match a, b with
  | nan s, _ => .nan s
  | _, nan s => .nan s
  | infinity _, infinity _ => .infinity negative
  | infinity _, finite _ v => if v == 0 then .nan false else .infinity negative
  | finite _ u, infinity _ => if u == 0 then .nan false else .infinity negative
  | finite _ u, finite _ v => ofUnitRatio negative (u * v) unitsPerOne

/-- The quotient, rounded; zero by zero and infinity by infinity are not numbers. -/
def div (a b : Binary64) : Binary64 :=
  let negative := a.isNegative != b.isNegative
  match a, b with
  | nan s, _ => .nan s
  | _, nan s => .nan s
  | infinity _, infinity _ => .nan false
  | infinity _, finite .. => .infinity negative
  | finite .., infinity _ => .finite negative 0
  | finite _ u, finite _ v =>
    if v == 0 then (if u == 0 then .nan false else .infinity negative)
    else ofUnitRatio negative (u * unitsPerOne) v

/-- The sum, rounded; opposite infinities have none. A sum of zero is positive unless both
operands are negative. -/
def add (a b : Binary64) : Binary64 :=
  match a, b with
  | nan s, _ => .nan s
  | _, nan s => .nan s
  | infinity s, infinity t => if s == t then .infinity s else .nan false
  | infinity s, finite .. => .infinity s
  | finite .., infinity t => .infinity t
  | finite s u, finite t v =>
    if s == t then ofUnitRatio s (u + v) 1
    else if u == v then .finite false 0
    else if v < u then ofUnitRatio s (u - v) 1
    else ofUnitRatio t (v - u) 1

/-- The squaring loop of `power`: `acc` holds the factors taken so far, `base` the current
power of two of the base, and `n` the bits of the exponent still to come. -/
def powerLoop (acc base : Binary64) (n : Nat) : Binary64 :=
  let acc := if n % 2 == 1 then acc.mul base else acc
  if _h : n / 2 = 0 then acc
  else powerLoop acc (base.mul base) (n / 2)
  termination_by n
  decreasing_by omega

/-- **Powers** by repeated squaring: each product is rounded. -/
def power (base : Binary64) (n : Nat) : Binary64 :=
  powerLoop one base n

/-- The whole number below a value, within `0 … limit`; zero if it is not a number. -/
def toNatSaturating (limit : Nat) : Binary64 → Nat
  | nan _ => 0
  | infinity negative => if negative then 0 else limit
  | finite negative units => if negative then 0 else min (units / unitsPerOne) limit

/-! ### Bit patterns -/

/-- What the sign bit counts in a pattern. -/
def signWeight : Nat := Nat.pow 2 63

/-- What the lowest bit of the exponent counts in a pattern: there are as many fractions. -/
def exponentWeight : Nat := Nat.pow 2 52

/-- The exponent of a pattern whose value is no finite one. -/
def topExponent : Nat := 2047

/-- The value with the given 64 bits. -/
def ofBits (bits : UInt64) : Binary64 :=
  let negative := bits.toNat / signWeight == 1
  let exponent := bits.toNat / exponentWeight % (topExponent + 1)
  let fraction := bits.toNat % exponentWeight
  if exponent == topExponent then
    if fraction == 0 then .infinity negative else .nan negative
  else if exponent == 0 then .finite negative fraction
  else .finite negative ((exponentWeight + fraction) * Nat.pow 2 (exponent - 1))

/-- The 64 bits of a value; a value that is not a number has the quiet pattern. -/
def toBits (x : Binary64) : UInt64 :=
  let sign := if x.isNegative then signWeight else 0
  match x with
  | nan _ => UInt64.ofNat (sign + topExponent * exponentWeight + exponentWeight / 2)
  | infinity _ => UInt64.ofNat (sign + topExponent * exponentWeight)
  | finite _ units =>
    if units < exponentWeight then UInt64.ofNat (sign + units)
    else
      let shift := spacing units
      let fraction := units / Nat.pow 2 shift - exponentWeight
      UInt64.ofNat (sign + (shift + 1) * exponentWeight + fraction)

/-! ### Examples -/

/-- Half a unit goes to the even neighbour. -/
example : roundUnits 1 2 = 0 ∧ roundUnits 3 2 = 2 ∧ roundUnits 5 2 = 2 := by decide

/-- Above 53 bits the neighbours are two apart. -/
example : roundUnits 9007199254740993 1 = 9007199254740992 ∧
    roundUnits 9007199254740995 1 = 9007199254740996 := by decide +kernel

end Binary64

end MessageIntake
