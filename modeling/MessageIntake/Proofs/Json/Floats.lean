import MessageIntake.Proofs.Binary64.Shortest
import MessageIntake.Proofs.Json.Numbers
/-!
# Floats in range

The reader of JSON scales the digits of a number by a power of ten that is itself rounded, and
refuses a number for which the product is infinite. What it does not refuse is finite.

Main statements: whatever number is read is of 64 bits or a finite float (`fits_of_magnitude`), and
the shortest decimal of a finite float is not refused (`exists_floatValue_decimal`).
-/

namespace MessageIntake.Binary64

/-! ### Finite values -/

/-- **A numeric value** is finite and one that rounding can give. -/
inductive Numeric : Binary64 → Prop
  | finite (negative : Bool) {units : Nat} (representable : Representable units)
      (small : units < unitsLimit) : Numeric (.finite negative units)

theorem Regular.numeric {x : Binary64} (h : Regular x) (finite : x.isFinite = true) :
    Numeric x := by
  cases x with
  | nan | infinity => cases finite
  | finite negative units => exact .finite negative h.representable.1 h.representable.2

theorem Numeric.neg {x : Binary64} (h : Numeric x) : Numeric x.neg := by
  cases h with
  | finite negative representable small => exact .finite _ representable small

theorem numeric_zero (negative : Bool) : Numeric (.finite negative 0) :=
  (Regular.zero negative).numeric rfl

theorem regular_mul (a b : Binary64) : Regular (a.mul b) := by
  cases a with
  | nan => exact .nan _
  | infinity =>
    cases b with
    | nan => exact .nan _
    | infinity => exact .infinity _
    | finite =>
      simp only [mul]
      split
      · exact .nan _
      · exact .infinity _
  | finite =>
    cases b with
    | nan => exact .nan _
    | infinity =>
      simp only [mul]
      split
      · exact .nan _
      · exact .infinity _
    | finite =>
      rw [mul_finite]
      exact .rounded _ _ _ unitsPerOne_pos

/-- **A quotient by no less than one** is no greater. -/
theorem Numeric.div {x : Binary64} (h : Numeric x) {v : Nat} (one_le : unitsPerOne ≤ v) :
    Numeric (x.div (.finite false v)) := by
  cases h with
  | @finite negative units representable small =>
    have pos := unitsPerOne_pos.trans_le one_le
    have notZero : ¬(v == 0) = true := by simpa using pos.ne'
    have less : roundUnits (units * unitsPerOne) v < unitsLimit :=
      calc
        roundUnits (units * unitsPerOne) v
          ≤ roundUnits (units * v) v := roundUnits_mono pos (Nat.mul_le_mul_left units one_le)
        _ = units := representable.roundUnits_mul pos
        _ < unitsLimit := small
    simp only [Binary64.div]
    rw [if_neg notZero, ofUnitRatio_of_lt _ less]
    exact .finite _ (representable_roundUnits pos _) less

end MessageIntake.Binary64

namespace MessageIntake.Json

open Binary64 (Numeric Representable unitsPerOne unitsLimit unitsOf ofUnits)
open Utf8 (bytesOf)

/-! ### Powers of ten -/

theorem powerOfTen_eq {k : Nat} (le : k ≤ 308) : powerOfTen k = .ofNat (10 ^ k) := by
  have notZero : ¬((1 : Nat) == 0) = true := by decide
  have scale : (-(k : Int)).toNat = 0 := by omega
  unfold powerOfTen Binary64.ofDecimal
  rw [if_neg notZero, if_neg (by omega), if_neg (by omega), scale, Int.toNat_natCast, Nat.one_mul]
  rfl

theorem wordLimit_le : wordLimit ≤ 10 ^ 308 := by decide +kernel

theorem unitsOf_lt {n : Nat} (le : n ≤ 10 ^ 308) : unitsOf n < unitsLimit :=
  (Binary64.unitsOf_mono le).trans_lt (by decide +kernel)

theorem powerOfTen_units {k : Nat} (le : k ≤ 308) :
    powerOfTen k = .finite false (unitsOf (10 ^ k)) ∧ unitsPerOne ≤ unitsOf (10 ^ k) := by
  have small : unitsOf (10 ^ k) < unitsLimit := unitsOf_lt (pow_le_pow_right₀ (by decide) le)
  rw [powerOfTen_eq le, Binary64.ofNat_eq]
  exact ⟨Binary64.ofUnits_of_lt small, Binary64.unitsPerOne_le_unitsOf (Nat.pow_pos (by decide))⟩

/-! ### What is read is finite -/

/-- **A number of 64 bits**, or a float that is finite. -/
def Number.Fits : Number → Prop
  | integer n => -2 ^ 63 ≤ n ∧ n < 2 ^ 64
  | float x => Numeric x

theorem numeric_ofNat {n : Nat} (le : n ≤ wordLimit) : Numeric (.ofNat n) := by
  have small : unitsOf n < unitsLimit := unitsOf_lt (le.trans wordLimit_le)
  refine (Binary64.regular_ofNat n).numeric ?_
  rw [Binary64.ofNat_eq, Binary64.isFinite_ofUnits]
  exact small

theorem numeric_scaleDown {x : Binary64} (h : Numeric x) (k : Nat) : Numeric (scaleDown x k) := by
  fun_induction scaleDown x k with
  | case1 x k le =>
    obtain ⟨eq, one_le⟩ := powerOfTen_units le
    rw [eq]
    exact h.div one_le
  | case2 => exact h
  | case3 x k _ _ ih =>
    obtain ⟨eq, one_le⟩ := powerOfTen_units le_rfl
    rw [eq] at ih
    rw [eq]
    exact ih (h.div one_le)

/-- **A float that is read** is finite. -/
theorem numeric_of_floatValue {negative : Bool} {significand : Nat} (le : significand ≤ wordLimit)
    {exponent : Int} {bytes : Bytes} {n : Number} {rest : Bytes}
    (read : floatValue negative significand exponent bytes = .ok (n, rest)) : n.Fits := by
  have signed : ∀ {x : Binary64}, Numeric x → Numeric (if negative then x.neg else x) := by
    intro x h
    split
    · exact h.neg
    · exact h
  have base := numeric_ofNat le
  simp only [floatValue] at read
  split at read
  · cases read
    exact signed (numeric_scaleDown base _)
  split at read
  · split at read
    · next finite =>
      cases read
      exact signed ((Binary64.regular_mul _ _).numeric finite)
    · cases read
  · split at read
    · cases read
      exact signed base
    · cases read

theorem fits_of_exponentDigits {negative growing : Bool} {significand : Nat}
    (le : significand ≤ wordLimit) {scale : Int} {e : Nat} {bytes : Bytes} {n : Number}
    {rest : Bytes}
    (read : exponentDigits negative growing significand scale e bytes = .ok (n, rest)) :
    n.Fits := by
  induction bytes generalizing e with
  | nil => exact numeric_of_floatValue le read
  | cons b bytes ih =>
    simp only [exponentDigits] at read
    split at read
    · split at read
      · exact ih read
      · split at read
        · cases read
        · cases read
          exact Binary64.numeric_zero negative
    · exact numeric_of_floatValue le read

theorem fits_of_floatEnd {negative : Bool} {significand : Nat} (le : significand ≤ wordLimit)
    {scale : Int} {bytes : Bytes} {n : Number} {rest : Bytes}
    (read : floatEnd negative significand scale bytes = .ok (n, rest)) : n.Fits := by
  unfold floatEnd at read
  split at read
  · unfold exponentPart at read
    dsimp only at read
    split at read
    · cases read
    · split at read
      · exact fits_of_exponentDigits le read
      · cases read
  · exact numeric_of_floatValue le read

theorem absorb_le (bytes : Bytes) {significand : Nat} (count : Nat) (le : significand ≤ wordLimit) :
    (absorb significand count bytes).1 ≤ wordLimit := by
  induction bytes generalizing significand count with
  | nil => exact le
  | cons b bytes ih =>
    simp only [absorb]
    split
    · next fits =>
      rw [Bool.and_eq_true, decide_eq_true_eq] at fits
      exact ih _ fits.2
    · exact le

theorem fits_of_numberEnd {negative : Bool} {significand scale : Nat}
    (le : significand ≤ wordLimit) {bytes : Bytes} {n : Number} {rest : Bytes}
    (read : numberEnd negative significand scale bytes = .ok (n, rest)) : n.Fits := by
  unfold numberEnd at read
  split at read
  · next digits =>
    have le' := absorb_le digits 0 le
    simp only [fractionPart] at read
    split at read
    · cases read
    · exact fits_of_floatEnd le' read
  · split at read
    · exact fits_of_floatEnd le read
    split at read
    · cases read
      exact ⟨by omega, by rw [wordLimit] at le; omega⟩
    split at read
    · cases read
      exact (numeric_ofNat le).neg
    · next small =>
      cases read
      simp only [Bool.or_eq_true, beq_iff_eq, decide_eq_true_eq, not_or] at small
      exact ⟨by omega, by omega⟩

/-- **A number that is read** is of 64 bits, or a finite float. -/
theorem fits_of_magnitude {negative : Bool} {bytes : Bytes} {n : Number} {rest : Bytes}
    (read : magnitude negative bytes = .ok (n, rest)) : n.Fits := by
  cases bytes with
  | nil => cases read
  | cons b bytes =>
    simp only [magnitude] at read
    split at read
    · split at read
      · cases read
      · exact fits_of_numberEnd (Nat.zero_le _) read
    split at read
    · next digit =>
      have first_le : b.toNat - 0x30 ≤ wordLimit := by
        have := b.toNat_lt
        rw [wordLimit]
        omega
      exact fits_of_numberEnd (absorb_le bytes 1 first_le) read
    · cases read

/-! ### Large floats -/

/-- The step between the greatest values. -/
def lastStep : Nat := Nat.pow 2 2045

/-- The greatest finite value. -/
def greatestUnits : Nat := unitsLimit - lastStep

/-- The end of the interval of the next to greatest value. -/
def ceiling : Nat := unitsLimit - lastStep - lastStep / 2

theorem exists_ceiling_lt : ∃ j ≤ 309, ceiling < 10 ^ j * unitsPerOne :=
  ⟨309, le_rfl, by decide +kernel⟩

theorem unitsLimit_eq : unitsLimit = 2 ^ 53 * lastStep := by decide +kernel

theorem four_dvd_lastStep : 4 ∣ lastStep := by decide +kernel

/-- A step is finer than the last, or is the last, or beyond it. -/
theorem lastStep_cases (s : Nat) :
    2 * Nat.pow 2 s ≤ lastStep ∨ Nat.pow 2 s = lastStep ∨ 0 < s ∧ 2 * lastStep ≤ Nat.pow 2 s := by
  unfold lastStep
  generalize 2045 = top
  rw [Nat.mul_comm, Nat.mul_comm 2 (Nat.pow 2 top)]
  rcases Nat.lt_trichotomy s top with low | rfl | high
  · exact .inl (Binary64.two_pow_le low)
  · exact .inr (.inl rfl)
  · exact .inr (.inr ⟨Nat.zero_lt_of_lt high, Binary64.two_pow_le high⟩)

/-- **The interval of a value** other than the greatest ends below the ceiling. -/
theorem upper_le_ceiling {units : Nat} (representable : Representable units)
    (small : units < unitsLimit) (other : units ≠ greatestUnits) :
    (Binary64.Shortest.interval units).upper ≤ 4 * ceiling := by
  have upper : (Binary64.Shortest.interval units).upper =
      4 * units + 2 * Nat.pow 2 (Binary64.spacing units) := rfl
  have lt := Binary64.lt_of_spacing units
  have le := Binary64.le_of_spacing (q := units)
  have cases := lastStep_cases (Binary64.spacing units)
  have four := four_dvd_lastStep
  obtain ⟨m, steps⟩ := representable
  rw [greatestUnits, unitsLimit_eq] at other
  rw [unitsLimit_eq] at small
  rw [upper, ceiling, unitsLimit_eq]
  clear upper
  generalize Nat.pow 2 (Binary64.spacing units) = step at lt le steps cases ⊢
  generalize lastStep = last at four small other cases ⊢
  rcases cases with finer | rfl | ⟨some, wider⟩
  · have : units < 2 ^ 53 * step := lt
    omega
  · -- the last step is that to the greatest value
    have bits : m < 2 ^ 53 := by
      refine lt_of_mul_lt_mul_right ?_ (Nat.zero_le step)
      rwa [Nat.mul_comm, ← steps]
    have notLast : m ≠ 2 ^ 53 - 1 := by
      rintro rfl
      omega
    have before := Nat.mul_le_mul_left step (show m ≤ 2 ^ 53 - 2 by omega)
    omega
  · have : 2 ^ 52 * step ≤ units := le some
    omega

/-- Products of seventeen digits with a moderate power are finite. -/
theorem isFinite_moderate : ((Binary64.ofNat (10 ^ 17)).mul (powerOfTen 290)).isFinite = true := by
  decide +kernel

/-- The greatest products below the ceiling are finite. -/
theorem isFinite_large : ∀ j < 18, ((Binary64.ofNat
    (ceiling / (10 ^ (291 + j) * unitsPerOne))).mul (powerOfTen (291 + j))).isFinite = true := by
  decide +kernel

theorem decimal_greatestUnits :
    Binary64.Shortest.decimal greatestUnits = ⟨17976931348623157, 292⟩ := by decide +kernel

theorem isFinite_greatest :
    ((Binary64.ofNat 17976931348623157).mul (powerOfTen 292)).isFinite = true := by decide +kernel

/-- A product is finite if one of more digits with a greater power is. -/
theorem isFinite_mul_powerOfTen {n m j k : Nat} (pos : 0 < n) (le : n ≤ m) (le' : j ≤ k)
    (small : k ≤ 308) (finite : ((Binary64.ofNat m).mul (powerOfTen k)).isFinite = true) :
    ((Binary64.ofNat n).mul (powerOfTen j)).isFinite = true := by
  have one_le := Binary64.unitsPerOne_le_unitsOf pos
  have one_le' := Binary64.unitsPerOne_le_unitsOf (Nat.pow_pos (n := j) (by decide : 0 < 10))
  have more := Binary64.unitsOf_mono le
  have greater := Binary64.unitsOf_mono (pow_le_pow_right₀ (by decide : 1 ≤ 10) le')
  rw [powerOfTen_eq small, Binary64.ofNat_eq, Binary64.ofNat_eq,
    Binary64.mul_ofUnits (one_le.trans more) (one_le'.trans greater),
    Binary64.isFinite_ofUnits] at finite
  rw [powerOfTen_eq (le'.trans small), Binary64.ofNat_eq, Binary64.ofNat_eq,
    Binary64.mul_ofUnits one_le one_le', Binary64.isFinite_ofUnits]
  exact (Binary64.mulUnits_mono more greater).trans_lt finite

/-- A number with a negative scale is in range. -/
theorem exists_floatValue_of_neg (negative : Bool) (significand : Nat) {exponent : Int}
    (low : exponent < 0) :
    ∃ x, ∀ rest, floatValue negative significand exponent rest = .ok (.float x, rest) := by
  refine ⟨if negative then (scaleDown (.ofNat significand) exponent.natAbs).neg
    else scaleDown (.ofNat significand) exponent.natAbs, fun rest => ?_⟩
  simp only [floatValue]
  exact if_pos low

theorem exists_floatValue_of_isFinite (negative : Bool) {significand k : Nat} (le : k ≤ 308)
    (finite : ((Binary64.ofNat significand).mul (powerOfTen k)).isFinite = true) :
    ∃ x, ∀ rest, floatValue negative significand k rest = .ok (.float x, rest) := by
  refine ⟨if negative then ((Binary64.ofNat significand).mul (powerOfTen k)).neg
    else (Binary64.ofNat significand).mul (powerOfTen k), fun rest => ?_⟩
  simp only [floatValue, Int.toNat_natCast]
  rw [if_neg (by omega), if_pos (by omega)]
  exact if_pos finite

/-- **The shortest decimals**: that of the greatest value, those with places behind the point, and
whole ones below the ceiling. -/
theorem decimal_cases {units : Nat} (pos : 0 < units) (representable : Representable units)
    (small : units < unitsLimit) :
    Binary64.Shortest.decimal units = ⟨17976931348623157, 292⟩ ∨
      (Binary64.Shortest.decimal units).exponent < 0 ∨
      ∃ k : Nat, k ≤ 308 ∧ (Binary64.Shortest.decimal units).exponent = k ∧
        (Binary64.Shortest.decimal units).digits * (10 ^ k * unitsPerOne) ≤ ceiling := by
  obtain ⟨-, inside⟩ := (Binary64.Shortest.contains_decimal pos).bounds
  have some_digit := Binary64.Shortest.digits_decimal_pos pos
  by_cases last : units = greatestUnits
  · rw [last]
    exact .inl decimal_greatestUnits
  generalize Binary64.Shortest.decimal units = d at inside some_digit ⊢
  rcases Int.lt_or_le d.exponent 0 with low | high
  · exact .inr (.inl low)
  · obtain ⟨k, exponent⟩ := Int.eq_ofNat_of_zero_le high
    have within : d.digits * (10 ^ k * unitsPerOne) ≤ ceiling := by
      have upper : ((Binary64.Shortest.interval units).upper : ℚ) ≤ 4 * ceiling := by
        exact_mod_cast upper_le_ceiling representable small last
      have whole : d.units = (d.digits * (10 ^ k * unitsPerOne) : Nat) := by
        rw [Binary64.Decimal.units, Binary64.grid, exponent, zpow_natCast]
        push_cast
        ring
      rw [whole] at inside
      exact_mod_cast le_of_mul_le_mul_left (inside.trans upper) (by norm_num)
    obtain ⟨j, le, beyond⟩ := exists_ceiling_lt
    have product := (Nat.le_mul_of_pos_left (10 ^ k * unitsPerOne) some_digit).trans within
    have powers := lt_of_mul_lt_mul_right (product.trans_lt beyond) (Nat.zero_le _)
    have := (Nat.pow_lt_pow_iff_right (by decide)).1 powers
    exact .inr (.inr ⟨k, by omega, exponent, within⟩)

/-- **The shortest decimal of a float** is in range for the reader. -/
theorem exists_floatValue_decimal {units : Nat} (pos : 0 < units)
    (representable : Representable units) (small : units < unitsLimit) (negative : Bool) :
    ∃ x, ∀ rest, floatValue negative (Binary64.Shortest.decimal units).digits
      (Binary64.Shortest.decimal units).exponent rest = .ok (.float x, rest) := by
  have some_digit := Binary64.Shortest.digits_decimal_pos pos
  have digits_le := Binary64.Shortest.digits_decimal_le pos
  rcases decimal_cases pos representable small with last | low | ⟨k, le, exponent, within⟩
  · rw [last]
    exact exists_floatValue_of_isFinite negative (by decide) isFinite_greatest
  · exact exists_floatValue_of_neg negative _ low
  · rw [exponent]
    refine exists_floatValue_of_isFinite negative le ?_
    rcases Nat.lt_or_ge k 291 with moderate | large
    · exact isFinite_mul_powerOfTen some_digit digits_le (Nat.lt_succ_iff.1 moderate)
        (by decide) isFinite_moderate
    · obtain ⟨j, rfl⟩ := Nat.exists_eq_add_of_le large
      refine isFinite_mul_powerOfTen some_digit ?_ le_rfl le (isFinite_large j (by omega))
      exact (Nat.le_div_iff_mul_le (Nat.mul_pos (Nat.pow_pos (by decide))
        Binary64.unitsPerOne_pos)).2 within

theorem exponent_decimal_le {units : Nat} (pos : 0 < units) (representable : Representable units)
    (small : units < unitsLimit) : (Binary64.Shortest.decimal units).exponent ≤ 308 := by
  rcases decimal_cases pos representable small with last | low | ⟨k, le, exponent, -⟩
  · rw [last]
    decide
  · omega
  · omega

end MessageIntake.Json
