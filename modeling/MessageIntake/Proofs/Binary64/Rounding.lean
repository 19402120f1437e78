import Mathlib.Order.Monotone.Basic
import MessageIntake.Binary64.Reading
/-!
# Rounding

Rounding is a whole number of steps, the step being as wide as the spacing around what is
rounded.

Main statements: rounding keeps the order (`roundUnits_mono`), what is rounded is representable
(`representable_roundUnits`), and what is representable is left alone
(`Representable.roundUnits_mul`).
-/

namespace MessageIntake.Binary64

/-! ### Rounding a quotient -/

/-- The whole number nearest to `num / step`, of two equally near the even one. -/
def nearest (num step : Nat) : Nat :=
  if 2 * (num % step) > step || (2 * (num % step) == step && num / step % 2 == 1)
  then num / step + 1 else num / step

theorem roundUnits_eq (num den : Nat) :
    roundUnits num den =
      nearest num (den * Nat.pow 2 (spacing (num / den))) * Nat.pow 2 (spacing (num / den)) :=
  rfl

theorem zero_roundUnits (den : Nat) : roundUnits 0 den = 0 := by
  simp [roundUnits_eq, nearest]

theorem nearest_mul {step : Nat} (pos : 0 < step) (n : Nat) : nearest (n * step) step = n := by
  simp [nearest, pos, pos.ne]

theorem nearest_mono {num num' : Nat} (step : Nat) (le : num ≤ num') :
    nearest num step ≤ nearest num' step := by
  have bounds : ∀ n, n / step ≤ nearest n step ∧ nearest n step ≤ n / step + 1 := by
    intro n
    unfold nearest
    split <;> omega
  rcases Nat.lt_or_eq_of_le (Nat.div_le_div_right (c := step) le) with lt | eq
  · have := bounds num
    have := bounds num'
    omega
  · -- with one whole part the rest decides, and it grows
    have whole := Nat.div_add_mod num step
    have whole' := Nat.div_add_mod num' step
    rw [← eq] at whole'
    simp only [nearest, ← eq, Bool.or_eq_true, Bool.and_eq_true, decide_eq_true_eq, beq_iff_eq]
    split <;> split <;> omega

theorem nearest_le {num step n : Nat} (pos : 0 < step) (le : num ≤ n * step) :
    nearest num step ≤ n :=
  (nearest_mono step le).trans_eq (nearest_mul pos n)

theorem le_nearest {num step n : Nat} (pos : 0 < step) (le : n * step ≤ num) :
    n ≤ nearest num step :=
  (nearest_mul pos n).symm.trans_le (nearest_mono step le)

/-- **What is within half a step** is rounded to it, from the very middle if that is even. -/
theorem nearest_eq {num step m : Nat} (pos : 0 < step) (below : 2 * (m * step) ≤ 2 * num + step)
    (above : 2 * num ≤ 2 * (m * step) + step)
    (odd : m % 2 = 1 → 2 * (m * step) < 2 * num + step ∧ 2 * num < 2 * (m * step) + step) :
    nearest num step = m := by
  have whole := Nat.div_add_mod num step
  have rest := Nat.mod_lt num pos
  rw [Nat.mul_comm] at whole
  have least : m < num / step + 2 := by
    refine Nat.lt_of_mul_lt_mul_right (a := step) ?_
    rw [Nat.add_mul]
    omega
  have most : num / step < m + 1 := by
    refine Nat.lt_of_mul_lt_mul_right (a := step) ?_
    rw [Nat.add_mul]
    omega
  simp only [nearest, Bool.or_eq_true, Bool.and_eq_true, decide_eq_true_eq, beq_iff_eq]
  obtain same | next : num / step = m ∨ num / step + 1 = m := by omega
  · rw [same] at whole ⊢
    split <;> omega
  · rw [← next, Nat.add_mul] at below above odd
    split <;> omega

/-! ### The order of rounded values -/

theorem two_pow_pos (k : Nat) : 0 < Nat.pow 2 k := Nat.pow_pos (by decide)

theorem two_pow_lt {j k : Nat} (lt : j < k) : Nat.pow 2 j < Nat.pow 2 k :=
  Nat.pow_lt_pow_right (by decide) lt

theorem two_pow_le {j k : Nat} (le : j ≤ k) : Nat.pow 2 j ≤ Nat.pow 2 k :=
  Nat.pow_le_pow_right (by decide) le

theorem spacing_mono {u v : Nat} (le : u ≤ v) : spacing u ≤ spacing v := by
  rcases Nat.eq_zero_or_pos u with rfl | pos
  · simp [spacing]
  · have bits : 2 ^ u.log2 ≤ v := (Nat.log2_self_le pos.ne').trans le
    exact Nat.sub_le_sub_right ((Nat.le_log2 (pos.trans_le le).ne').2 bits) 52

/-- Fifty-three bits hold what is counted in steps of the spacing. -/
theorem lt_of_spacing (q : Nat) : q < Nat.pow 2 53 * Nat.pow 2 (spacing q) := by
  have top : q < 2 ^ (q.log2 + 1) := Nat.lt_log2_self
  have le : q.log2 + 1 ≤ 53 + spacing q := by
    unfold spacing
    omega
  rw [Nat.pow_eq, Nat.pow_eq, ← Nat.pow_add]
  exact top.trans_le (Nat.pow_le_pow_right (by decide) le)

/-- A spacing that is not the least leaves none of them empty. -/
theorem le_of_spacing {q : Nat} (pos : 0 < spacing q) :
    Nat.pow 2 52 * Nat.pow 2 (spacing q) ≤ q := by
  have eq : 52 + spacing q = q.log2 := by
    unfold spacing at pos ⊢
    omega
  have nonzero : q ≠ 0 := by
    rintro rfl
    simp [spacing] at pos
  rw [Nat.pow_eq, Nat.pow_eq, ← Nat.pow_add, eq]
  exact Nat.log2_self_le nonzero

/-- The spacing by what it holds. -/
theorem spacing_eq {q s : Nat} (lt : q < Nat.pow 2 53 * Nat.pow 2 s)
    (le : s = 0 ∨ Nat.pow 2 52 * Nat.pow 2 s ≤ q) : spacing q = s := by
  have most : spacing q ≤ s := by
    rcases Nat.eq_zero_or_pos q with rfl | pos
    · simp [spacing]
    · have bits : q < 2 ^ (53 + s) := by
        rw [Nat.pow_add]
        exact lt
      have := (Nat.log2_lt pos.ne').2 bits
      unfold spacing
      omega
  rcases le with rfl | le
  · omega
  · have bits : 2 ^ (52 + s) ≤ q := by
      rw [Nat.pow_add]
      exact le
    have := (Nat.le_log2 ((Nat.pow_pos (by decide)).trans_le bits).ne').2 bits
    unfold spacing at most ⊢
    omega

/-- A rounded quotient has 53 bits, or is the next power of two. -/
theorem nearest_le_of_spacing {den : Nat} (pos : 0 < den) (num : Nat) :
    nearest num (den * Nat.pow 2 (spacing (num / den))) ≤ Nat.pow 2 53 := by
  refine nearest_le (Nat.mul_pos pos (two_pow_pos _)) ?_
  have lt := (Nat.div_lt_iff_lt_mul pos).1 (lt_of_spacing (num / den))
  calc
    num ≤ Nat.pow 2 53 * Nat.pow 2 (spacing (num / den)) * den := lt.le
    _ = Nat.pow 2 53 * (den * Nat.pow 2 (spacing (num / den))) := by ac_rfl

/-- **Rounding keeps the order.** -/
theorem roundUnits_mono {den num num' : Nat} (pos : 0 < den) (le : num ≤ num') :
    roundUnits num den ≤ roundUnits num' den := by
  have quotients : num / den ≤ num' / den := Nat.div_le_div_right le
  rw [roundUnits_eq, roundUnits_eq]
  rcases Nat.lt_or_eq_of_le (spacing_mono quotients) with lt | eq
  · -- a power of two lies between them
    have above := le_of_spacing (Nat.zero_lt_of_lt lt)
    have full : Nat.pow 2 52 ≤ nearest num' (den * Nat.pow 2 (spacing (num' / den))) := by
      refine le_nearest (Nat.mul_pos pos (two_pow_pos _)) ?_
      calc
        Nat.pow 2 52 * (den * Nat.pow 2 (spacing (num' / den)))
          = Nat.pow 2 52 * Nat.pow 2 (spacing (num' / den)) * den := by ac_rfl
        _ ≤ num' := (Nat.le_div_iff_mul_le pos).1 above
    calc
      nearest num (den * Nat.pow 2 (spacing (num / den))) * Nat.pow 2 (spacing (num / den))
        ≤ Nat.pow 2 53 * Nat.pow 2 (spacing (num / den)) :=
          Nat.mul_le_mul_right _ (nearest_le_of_spacing pos num)
      _ = Nat.pow 2 52 * Nat.pow 2 (spacing (num / den) + 1) := by
          simp only [Nat.pow_eq, Nat.pow_succ]
          omega
      _ ≤ Nat.pow 2 52 * Nat.pow 2 (spacing (num' / den)) :=
          Nat.mul_le_mul_left _ (Nat.pow_le_pow_right (by decide) lt)
      _ ≤ _ := Nat.mul_le_mul_right _ full
  · rw [← eq]
    exact Nat.mul_le_mul_right _ (nearest_mono _ le)

/-! ### Representable numbers of units -/

/-- **A representable number of units** is a whole number of steps of its spacing. -/
def Representable (u : Nat) : Prop := Nat.pow 2 (spacing u) ∣ u

theorem representable_pow (k : Nat) : Representable (Nat.pow 2 k) := by
  refine Nat.pow_dvd_pow 2 ?_
  rw [spacing, Nat.pow_eq, Nat.log2_two_pow]
  exact Nat.sub_le k 52

/-- **What 53 bits hold** is representable in every scale, and so is the next power of two. -/
theorem representable_mul_pow {m : Nat} (le : m ≤ Nat.pow 2 53) (s : Nat) :
    Representable (m * Nat.pow 2 s) := by
  rcases Nat.lt_or_eq_of_le le with lt | rfl
  · -- the product keeps the spacing, or has a finer one
    have finer : spacing (m * Nat.pow 2 s) ≤ s := by
      rcases Nat.eq_zero_or_pos (m * Nat.pow 2 s) with none | some
      · rw [none]
        simp [spacing]
      · have bits : m * Nat.pow 2 s < 2 ^ (53 + s) := by
          rw [Nat.pow_add]
          exact Nat.mul_lt_mul_of_pos_right lt (two_pow_pos s)
        have := (Nat.log2_lt some.ne').2 bits
        unfold spacing
        omega
    exact Nat.dvd_trans (Nat.pow_dvd_pow 2 finer) (Nat.dvd_mul_left ..)
  · rw [Nat.pow_eq, Nat.pow_eq, ← Nat.pow_add]
    exact representable_pow _

/-- What is rounded is representable. -/
theorem representable_roundUnits {den : Nat} (pos : 0 < den) (num : Nat) :
    Representable (roundUnits num den) := by
  rw [roundUnits_eq]
  exact representable_mul_pow (nearest_le_of_spacing pos num) _

/-- **Rounding leaves alone what is representable.** -/
theorem Representable.roundUnits_mul {u den : Nat} (h : Representable u) (pos : 0 < den) :
    roundUnits (u * den) den = u := by
  obtain ⟨m, eq⟩ := h
  have step_pos : 0 < den * Nat.pow 2 (spacing u) := Nat.mul_pos pos (two_pow_pos _)
  have steps : u * den = m * (den * Nat.pow 2 (spacing u)) := by
    rw [Nat.mul_comm den, ← Nat.mul_assoc, Nat.mul_comm m, ← eq]
  rw [roundUnits_eq, Nat.mul_div_cancel _ pos, steps, nearest_mul step_pos, Nat.mul_comm, ← eq]

end MessageIntake.Binary64
