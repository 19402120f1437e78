import MessageIntake.Proofs.Binary64.Powers
/-!
# Whole numbers

Significands have 53 bits, so that each whole number below `2 ^ 53` is a value, and a product of
such numbers is exact as long as it is below as well. A product that is not may be rounded, but
not below `2 ^ 53`. This is all that the units of a whole number have to tell (`Holds`) for it to
be known where it is small, and that it is large where it is.

Main statements: a power of a whole number holds what it should (`Holds.power`), although it is
made of products that are each rounded; and the powers of two and of all that is more are infinite
from the exponent 1024 on (`unitsLimit_le_powerUnits`).
-/

namespace MessageIntake.Binary64

/-! ### Numbers that are exact -/

/-- **The first whole number** that has a neighbour which is no value. -/
def wholeLimit : Nat := Nat.pow 2 53

theorem wholeLimit_pos : 0 < wholeLimit := two_pow_pos 53

/-- **A whole number up to the limit** is representable. -/
theorem representable_whole {n : Nat} (le : n ≤ wholeLimit) : Representable (n * unitsPerOne) := by
  unfold unitsPerOne
  apply representable_mul_pow le

/-! ### What units hold of a number -/

/-- **The units hold a whole number**: they are its own if it is below the limit, and else those of
the limit at least. -/
structure Holds (u n : Nat) : Prop where
  exact : n < wholeLimit → u = n * unitsPerOne
  large : wholeLimit ≤ n → wholeLimit * unitsPerOne ≤ u

variable {u v a b : Nat}

/-- The units of a whole number hold it. -/
theorem holds_unitsOf (n : Nat) : Holds (unitsOf n) n := by
  have rounded : ∀ k ≤ wholeLimit, unitsOf k = k * unitsPerOne := by
    intro k le
    have := (representable_whole le).roundUnits_mul Nat.one_pos
    rwa [Nat.mul_one] at this
  constructor
  · exact fun small => rounded n small.le
  · intro large
    rw [← rounded wholeLimit le_rfl]
    exact unitsOf_mono large

theorem holds_one : Holds unitsPerOne 1 := by
  have one := holds_unitsOf 1
  have small : 1 < wholeLimit := by decide
  rwa [one.exact small, Nat.one_mul] at one

/-- Units that hold a number are no less than the number is, as far as it is exact. -/
theorem Holds.min_le (h : Holds u a) : min a wholeLimit * unitsPerOne ≤ u := by
  rcases Nat.lt_or_ge a wholeLimit with small | large
  · rw [Nat.min_eq_left small.le, h.exact small]
  · rw [Nat.min_eq_right large]
    exact h.large large

theorem Holds.one_le (h : Holds u a) (pos : 0 < a) : unitsPerOne ≤ u := by
  have one : 1 ≤ min a wholeLimit := Nat.le_min.2 ⟨pos, wholeLimit_pos⟩
  calc
    unitsPerOne = 1 * unitsPerOne := (Nat.one_mul _).symm
    _ ≤ min a wholeLimit * unitsPerOne := Nat.mul_le_mul_right _ one
    _ ≤ u := h.min_le

/-- A product of exact units is that of their numbers. -/
theorem mulUnits_whole (a b : Nat) (h : Representable (a * b * unitsPerOne)) :
    mulUnits (a * unitsPerOne) (b * unitsPerOne) = a * b * unitsPerOne := by
  rw [mulUnits, Nat.mul_mul_mul_comm, ← Nat.mul_assoc]
  exact h.roundUnits_mul unitsPerOne_pos

/-- **The product of two numbers** is held by that of their units. -/
theorem Holds.mul (h : Holds u a) (h' : Holds v b) (pos : 0 < a) (pos' : 0 < b) :
    Holds (mulUnits u v) (a * b) := by
  constructor
  · intro small
    have left : a < wholeLimit := (Nat.le_mul_of_pos_right a pos').trans_lt small
    have right : b < wholeLimit := (Nat.le_mul_of_pos_left b pos).trans_lt small
    rw [h.exact left, h'.exact right]
    exact mulUnits_whole a b (representable_whole small.le)
  · intro large
    -- what is cut off at the limit still has a product that reaches it
    have reaches : wholeLimit ≤ min a wholeLimit * min b wholeLimit := by
      have one : 1 ≤ min a wholeLimit := Nat.le_min.2 ⟨pos, wholeLimit_pos⟩
      have one' : 1 ≤ min b wholeLimit := Nat.le_min.2 ⟨pos', wholeLimit_pos⟩
      rcases Nat.lt_or_ge a wholeLimit with small | big
      · rcases Nat.lt_or_ge b wholeLimit with small' | big'
        · rwa [Nat.min_eq_left small.le, Nat.min_eq_left small'.le]
        · rw [Nat.min_eq_right big']
          exact Nat.le_mul_of_pos_left _ one
      · rw [Nat.min_eq_right big]
        exact Nat.le_mul_of_pos_right _ one'
    calc
      wholeLimit * unitsPerOne
        = roundUnits (wholeLimit * unitsPerOne * unitsPerOne) unitsPerOne :=
          ((representable_whole le_rfl).roundUnits_mul unitsPerOne_pos).symm
      _ ≤ roundUnits (min a wholeLimit * unitsPerOne * (min b wholeLimit * unitsPerOne))
            unitsPerOne := by
          refine roundUnits_mono unitsPerOne_pos ?_
          calc
            wholeLimit * unitsPerOne * unitsPerOne
              ≤ min a wholeLimit * min b wholeLimit * unitsPerOne * unitsPerOne :=
                Nat.mul_le_mul_right _ (Nat.mul_le_mul_right _ reaches)
            _ = min a wholeLimit * unitsPerOne * (min b wholeLimit * unitsPerOne) := by
                rw [Nat.mul_mul_mul_comm, ← Nat.mul_assoc]
      _ ≤ mulUnits u v := mulUnits_mono h.min_le h'.min_le

/-- The lowest bit of the exponent, and the square for all others. -/
theorem pow_halves (b n : Nat) :
    Nat.pow b n = (if n % 2 == 1 then b else 1) * Nat.pow (b * b) (n / 2) := by
  have halves := Nat.div_add_mod n 2
  rcases Nat.mod_two_eq_zero_or_one n with even | odd
  · rw [even, Nat.add_zero] at halves
    rw [even, if_neg (by decide), Nat.one_mul]
    calc
      Nat.pow b n = b ^ (2 * (n / 2)) := by rw [halves]; rfl
      _ = (b ^ 2) ^ (n / 2) := Nat.pow_mul ..
      _ = Nat.pow (b * b) (n / 2) := by rw [Nat.pow_two]; rfl
  · rw [odd] at halves
    rw [odd, if_pos (by decide)]
    calc
      Nat.pow b n = b ^ (2 * (n / 2) + 1) := by rw [halves]; rfl
      _ = b ^ (2 * (n / 2)) * b := Nat.pow_succ ..
      _ = (b ^ 2) ^ (n / 2) * b := by rw [Nat.pow_mul]
      _ = b * Nat.pow (b * b) (n / 2) := by rw [Nat.pow_two, Nat.mul_comm]; rfl

/-- **The power of a number** is held by that of its units. -/
theorem Holds.power {acc base : Nat} (h : Holds acc a) (h' : Holds base b) (pos : 0 < a)
    (pos' : 0 < b) (n : Nat) : Holds (powerUnits acc base n) (a * Nat.pow b n) := by
  induction n using Nat.strongRecOn generalizing acc base a b with
  | ind n ih =>
    rcases Nat.eq_zero_or_pos n with rfl | some
    · rw [powerUnits_zero]
      simpa using h
    · rw [powerUnits_of_pos acc base some, pow_halves b n, ← Nat.mul_assoc]
      have square := h'.mul h' pos' pos'
      have square_pos := Nat.mul_pos pos' pos'
      split
      · exact ih _ (by omega) (h.mul h' pos pos') square (Nat.mul_pos pos pos') square_pos
      · rw [Nat.mul_one]
        exact ih _ (by omega) h square pos square_pos

/-! ### Powers that are infinite -/

theorem representable_pow_mul (j k : Nat) : Representable (Nat.pow 2 j * Nat.pow 2 k) := by
  rw [Nat.pow_eq, Nat.pow_eq, ← Nat.pow_add]
  exact representable_pow _

/-- A product of what reaches two powers of two reaches their product. -/
theorem le_mulUnits_of_two_pow {j k : Nat} (le : Nat.pow 2 j * unitsPerOne ≤ u)
    (le' : Nat.pow 2 k * unitsPerOne ≤ v) : Nat.pow 2 (j + k) * unitsPerOne ≤ mulUnits u v := by
  have sum : Nat.pow 2 j * Nat.pow 2 k = Nat.pow 2 (j + k) := (Nat.pow_add 2 j k).symm
  have representable : Representable (Nat.pow 2 j * Nat.pow 2 k * unitsPerOne) := by
    rw [sum]
    unfold unitsPerOne
    apply representable_pow_mul
  rw [← sum, ← mulUnits_whole _ _ representable]
  exact mulUnits_mono le le'

/-- **A power of what reaches a power of two** reaches the power of that. -/
theorem le_powerUnits_of_two_pow {acc base j k : Nat} (le : Nat.pow 2 j * unitsPerOne ≤ acc)
    (le' : Nat.pow 2 k * unitsPerOne ≤ base) (n : Nat) :
    Nat.pow 2 (j + k * n) * unitsPerOne ≤ powerUnits acc base n := by
  induction n using Nat.strongRecOn generalizing acc base j k with
  | ind n ih =>
    rcases Nat.eq_zero_or_pos n with rfl | some
    · rw [powerUnits_zero, Nat.mul_zero, Nat.add_zero]
      exact le
    · have square := le_mulUnits_of_two_pow le' le'
      have halves : k * (2 * (n / 2) + n % 2) = k * n := congrArg (k * ·) (Nat.div_add_mod n 2)
      have doubled : (k + k) * (n / 2) = k * (2 * (n / 2)) := by
        rw [← Nat.two_mul, Nat.mul_assoc, Nat.mul_left_comm]
      rw [Nat.mul_add] at halves
      rw [powerUnits_of_pos acc base some]
      rcases Nat.mod_two_eq_zero_or_one n with even | odd
      · have sum : j + k * n = j + (k + k) * (n / 2) := by
          rw [doubled, ← halves, even]
          rfl
        rw [even, if_neg (by decide), sum]
        exact ih (n / 2) (by omega) le square
      · have sum : j + k * n = j + k + (k + k) * (n / 2) := by
          rw [doubled, ← halves, odd]
          omega
        rw [odd, if_pos (by decide), sum]
        exact ih (n / 2) (by omega) (le_mulUnits_of_two_pow le le') square

/-- **The powers of two and of all that is more** are infinite from the exponent 1024 on. -/
theorem unitsLimit_le_powerUnits {base n : Nat} (two : Nat.pow 2 1 * unitsPerOne ≤ base)
    (large : 1024 ≤ n) : unitsLimit ≤ powerUnits unitsPerOne base n := by
  have one : Nat.pow 2 0 * unitsPerOne ≤ unitsPerOne := by
    rw [Nat.pow_eq, Nat.pow_zero, Nat.one_mul]
  have limit : unitsLimit = Nat.pow 2 1024 * unitsPerOne := by decide +kernel
  generalize 1024 = e at large limit
  calc
    unitsLimit = Nat.pow 2 e * unitsPerOne := limit
    _ ≤ Nat.pow 2 (0 + 1 * n) * unitsPerOne := Nat.mul_le_mul_right _ (two_pow_le (by omega))
    _ ≤ powerUnits unitsPerOne base n := le_powerUnits_of_two_pow one two n

end MessageIntake.Binary64
