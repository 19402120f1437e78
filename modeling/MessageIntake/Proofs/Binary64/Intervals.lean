import Mathlib.Algebra.Order.Field.Power
import Mathlib.Tactic.Linarith
import Mathlib.Tactic.Ring
import MessageIntake.Binary64.Reading
import MessageIntake.Binary64.Shortest
import MessageIntake.Proofs.Binary64.Powers
/-!
# The interval of a value

Around each value lies the interval of what is rounded to it: half a step down and half a step up,
with its ends just if the value has even bits. The step down is half as long from a power of two.
The points that a decimal can come to are those of a grid.

Main statement: whatever decimal lies in the interval of a value is read as that value
(`ofDecimal_of_contains`).
-/

namespace MessageIntake.Binary64

/-- **The units between two points** of a decimal grid. -/
def grid (k : Int) : ℚ := unitsPerOne * 10 ^ k

/-- **The units of a decimal**, exactly. -/
def Decimal.units (d : Decimal) : ℚ := d.digits * grid d.exponent

namespace Shortest

/-! ### Grids -/

theorem unitsPerOne_cast_pos : (0 : ℚ) < unitsPerOne := Nat.cast_pos.2 unitsPerOne_pos

theorem grid_pos (k : Int) : 0 < grid k := mul_pos unitsPerOne_cast_pos (by positivity)

theorem grid_add (k j : Int) : grid (k + j) = grid k * 10 ^ j := by
  rw [grid, grid, zpow_add₀ (by norm_num), mul_assoc]

theorem grid_mono {k j : Int} (le : k ≤ j) : grid k ≤ grid j :=
  mul_le_mul_of_nonneg_left (zpow_le_zpow_right₀ (by norm_num) le) unitsPerOne_cast_pos.le

/-- The scaled points of the search. -/
theorem cast_point (k : Int) :
    ((unitsPerOne * Nat.pow 10 k.toNat : Nat) : ℚ) = grid k * (Nat.pow 10 (-k).toNat : Nat) := by
  have powers : (10 : ℚ) ^ k.toNat = 10 ^ k * 10 ^ (-k).toNat := by
    rw [← zpow_natCast, ← zpow_natCast, ← zpow_add₀ (by norm_num)]
    congr 1
    omega
  simp only [Nat.pow_eq, Nat.cast_mul, Nat.cast_pow, Nat.cast_ofNat, powers, grid]
  ring

theorem cast_scale_pos (k : Int) : (0 : ℚ) < (Nat.pow 10 (-k).toNat : Nat) := by
  simp only [Nat.pow_eq]
  positivity

/-! ### Intervals -/

/-- **The point lies in the interval**, at an end of it only if that is closed. -/
def Interval.Contains (i : Interval) (q : ℚ) : Prop :=
  if i.closed then i.lower ≤ 4 * q ∧ 4 * q ≤ i.upper else i.lower < 4 * q ∧ 4 * q < i.upper

theorem Interval.Contains.bounds {i : Interval} {q : ℚ} (h : i.Contains q) :
    i.lower ≤ 4 * q ∧ 4 * q ≤ i.upper := by
  unfold Contains at h
  split at h
  · exact h
  · exact ⟨h.1.le, h.2.le⟩

theorem Interval.contains_of_lt {i : Interval} {q : ℚ} (lower : i.lower < 4 * q)
    (upper : 4 * q < i.upper) : i.Contains q := by
  unfold Contains
  split
  · exact ⟨lower.le, upper.le⟩
  · exact ⟨lower, upper⟩

/-- **The test of the search** is on points of the grid. -/
theorem holds_iff (i : Interval) (n : Nat) (k : Int) :
    i.holds (4 * n * (unitsPerOne * Nat.pow 10 k.toNat)) (Nat.pow 10 (-k).toNat) = true ↔
      i.Contains (n * grid k) := by
  have scale_pos := cast_scale_pos k
  have scaled : ((4 * n * (unitsPerOne * Nat.pow 10 k.toNat) : Nat) : ℚ) =
      4 * (n * grid k) * (Nat.pow 10 (-k).toNat : Nat) := by
    rw [Nat.cast_mul, cast_point]
    push_cast
    ring
  have lower_le : ∀ m : Nat, m * Nat.pow 10 (-k).toNat ≤
      4 * n * (unitsPerOne * Nat.pow 10 k.toNat) ↔ (m : ℚ) ≤ 4 * (n * grid k) := by
    intro m
    rw [← Nat.cast_le (α := ℚ), scaled, Nat.cast_mul, mul_le_mul_iff_left₀ scale_pos]
  have le_upper : ∀ m : Nat, 4 * n * (unitsPerOne * Nat.pow 10 k.toNat) ≤
      m * Nat.pow 10 (-k).toNat ↔ 4 * (n * grid k) ≤ (m : ℚ) := by
    intro m
    rw [← Nat.cast_le (α := ℚ), scaled, Nat.cast_mul, mul_le_mul_iff_left₀ scale_pos]
  unfold Interval.holds Interval.Contains
  split
  · simp only [Bool.and_eq_true, decide_eq_true_eq, lower_le, le_upper]
  · simp only [Bool.and_eq_true, decide_eq_true_eq, ← not_le, lower_le, le_upper]

theorem two_pow_spacing_le {units : Nat} (pos : 0 < units) :
    Nat.pow 2 (spacing units) ≤ units := by
  rcases Nat.eq_zero_or_pos (spacing units) with none | some
  · rw [none]
    exact pos
  · exact (Nat.le_mul_of_pos_left _ (two_pow_pos 52)).trans (le_of_spacing some)

/-- **The step below a value**: that above it, or half of that if the value is a power of two. -/
inductive StepBelow (units : Nat) : Nat → Prop
  | full (other : spacing units = 0 ∨ units ≠ Nat.pow 2 52 * Nat.pow 2 (spacing units)) :
      StepBelow units (Nat.pow 2 (spacing units))
  | half {below : Nat} (some : 0 < spacing units) (half : 2 * below = Nat.pow 2 (spacing units))
      (power : units = Nat.pow 2 52 * Nat.pow 2 (spacing units)) : StepBelow units below

theorem StepBelow.pos {units below : Nat} (h : StepBelow units below) : 0 < below := by
  have := two_pow_pos (spacing units)
  cases h with
  | full => exact this
  | half => omega

theorem StepBelow.le {units below : Nat} (h : StepBelow units below) :
    below ≤ Nat.pow 2 (spacing units) := by
  cases h with
  | full => exact le_rfl
  | half => omega

/-- **The interval around a value** reaches half a step down and half a step up. -/
theorem interval_eq {units : Nat} (pos : 0 < units) :
    ∃ below, StepBelow units below ∧ ((interval units).lower : ℚ) = 4 * units - 2 * below ∧
      ((interval units).upper : ℚ) = 4 * units + 2 * (Nat.pow 2 (spacing units) : Nat) := by
  have upper : ((interval units).upper : ℚ) =
      4 * units + 2 * (Nat.pow 2 (spacing units) : Nat) := by
    simp only [interval, Nat.cast_add, Nat.cast_mul, Nat.cast_ofNat]
  have powers : Nat.pow 2 (52 + spacing units) = Nat.pow 2 52 * Nat.pow 2 (spacing units) :=
    Nat.pow_add ..
  obtain ⟨below, step, lower⟩ : ∃ below, StepBelow units below ∧
      (interval units).lower = 4 * units - 2 * below := by
    by_cases power : 0 < spacing units ∧ units = Nat.pow 2 (52 + spacing units)
    · obtain ⟨some, eq⟩ := power
      obtain ⟨t, succ⟩ : ∃ t, spacing units = t + 1 := ⟨spacing units - 1, by omega⟩
      refine ⟨Nat.pow 2 t, .half some ?_ (eq.trans powers), ?_⟩
      · rw [succ, Nat.mul_comm]
        rfl
      · simp only [interval]
        rw [if_pos (by simpa [some] using eq), succ, Nat.add_sub_cancel]
    · refine ⟨_, .full ?_, ?_⟩
      · rw [← powers]
        exact (Nat.eq_zero_or_pos _).imp_right fun some eq => power ⟨some, eq⟩
      · simp only [interval]
        rw [if_neg (by simpa using power)]
  refine ⟨below, step, ?_, upper⟩
  have := step.le.trans (two_pow_spacing_le pos)
  rw [lower, Nat.cast_sub (by omega)]
  push_cast
  rfl

/-! ### What rounds to a value -/

/-- **The interval of a value** that a quotient lies in, in whole numbers. -/
theorem Interval.Contains.cross {units num den : Nat} (pos : 0 < units) (den_pos : 0 < den)
    (inside : (interval units).Contains ((num : ℚ) / den)) :
    ∃ below, StepBelow units below ∧ 2 * (units * den) ≤ 2 * num + below * den ∧
      2 * num ≤ 2 * (units * den) + Nat.pow 2 (spacing units) * den ∧
      (units / Nat.pow 2 (spacing units) % 2 = 1 →
        2 * (units * den) < 2 * num + below * den ∧
        2 * num < 2 * (units * den) + Nat.pow 2 (spacing units) * den) := by
  have den_pos' : (0 : ℚ) < den := Nat.cast_pos.2 den_pos
  have quotient : (num : ℚ) / den * den = num := div_mul_cancel₀ _ den_pos'.ne'
  have strict : units / Nat.pow 2 (spacing units) % 2 = 1 →
      (interval units).lower < 4 * ((num : ℚ) / den) ∧
        4 * ((num : ℚ) / den) < (interval units).upper := by
    intro odd
    have isOpen : ¬(interval units).closed = true := by
      simp only [interval, beq_iff_eq]
      omega
    rwa [Contains, if_neg isOpen] at inside
  obtain ⟨least, most⟩ := inside.bounds
  obtain ⟨below, shape, lower, upper⟩ := interval_eq pos
  rw [lower] at least strict
  rw [upper] at most strict
  refine ⟨below, shape, ?_⟩
  -- the shape would only hide that the rest is linear once the quotient is multiplied out
  clear shape
  generalize Nat.pow 2 (spacing units) = step at most strict ⊢
  generalize (num : ℚ) / den = q at quotient least most strict
  refine ⟨?_, ?_, fun odd => ⟨?_, ?_⟩⟩
  · have := mul_le_mul_of_nonneg_right least den_pos'.le
    have : (2 : ℚ) * (units * den) ≤ 2 * num + below * den := by linarith
    exact_mod_cast this
  · have := mul_le_mul_of_nonneg_right most den_pos'.le
    have : (2 : ℚ) * num ≤ 2 * (units * den) + step * den := by linarith
    exact_mod_cast this
  · have := mul_lt_mul_of_pos_right (strict odd).1 den_pos'
    have : (2 : ℚ) * (units * den) < 2 * num + below * den := by linarith
    exact_mod_cast this
  · have := mul_lt_mul_of_pos_right (strict odd).2 den_pos'
    have : (2 : ℚ) * num < 2 * (units * den) + step * den := by linarith
    exact_mod_cast this

section Near

variable {units num den m s : Nat}

/-- What is within half a step of a value is rounded to it. -/
theorem roundUnits_of_near (den_pos : 0 < den)
    (spacing_eq : spacing (num / den) = s) (steps : units = m * Nat.pow 2 s)
    (below : 2 * (units * den) ≤ 2 * num + Nat.pow 2 s * den)
    (above : 2 * num ≤ 2 * (units * den) + Nat.pow 2 s * den)
    (odd : m % 2 = 1 → 2 * (units * den) < 2 * num + Nat.pow 2 s * den ∧
      2 * num < 2 * (units * den) + Nat.pow 2 s * den) : roundUnits num den = units := by
  have product : m * (den * Nat.pow 2 s) = units * den := by
    rw [steps]
    ac_rfl
  rw [roundUnits_eq, spacing_eq, nearest_eq (Nat.mul_pos den_pos (two_pow_pos s)), steps]
  · rwa [product, Nat.mul_comm den]
  · rwa [product, Nat.mul_comm den]
  · rwa [product, Nat.mul_comm den]

/-- Half a step above a value, its bits are not more. -/
theorem quotient_lt (den_pos : 0 < den) (steps : units = m * Nat.pow 2 s)
    (last : m + 1 ≤ Nat.pow 2 53) (above : 2 * num ≤ 2 * (units * den) + Nat.pow 2 s * den) :
    num / den < Nat.pow 2 53 * Nat.pow 2 s := by
  refine (Nat.div_lt_iff_lt_mul den_pos).2 ?_
  have step_pos := Nat.mul_pos (two_pow_pos s) den_pos
  have := Nat.mul_le_mul_right (Nat.pow 2 s * den) last
  rw [Nat.add_mul, ← Nat.mul_assoc, ← steps, Nat.one_mul] at this
  rw [Nat.mul_assoc]
  omega

/-- Half a step below a value that is no power of two, its bits are not fewer. -/
theorem le_quotient (den_pos : 0 < den) (steps : units = m * Nat.pow 2 s)
    (first : Nat.pow 2 52 + 1 ≤ m) (below : 2 * (units * den) ≤ 2 * num + Nat.pow 2 s * den) :
    Nat.pow 2 52 * Nat.pow 2 s ≤ num / den := by
  refine (Nat.le_div_iff_mul_le den_pos).2 ?_
  have := Nat.mul_le_mul_right (Nat.pow 2 s * den) first
  rw [Nat.add_mul, ← Nat.mul_assoc m, ← steps, Nat.one_mul] at this
  rw [Nat.mul_assoc]
  omega

/-- **Below a power of two** the steps are finer, and what is within half such a step is rounded to
the power. -/
theorem roundUnits_of_less {t : Nat} (den_pos : 0 < den)
    (power : units = Nat.pow 2 53 * Nat.pow 2 t) (less : num < units * den)
    (below : 2 * (units * den) ≤ 2 * num + Nat.pow 2 t * den) : roundUnits num den = units := by
  have lt : num / den < Nat.pow 2 53 * Nat.pow 2 t := by
    rw [← power]
    exact (Nat.div_lt_iff_lt_mul den_pos).2 less
  have le : Nat.pow 2 52 * Nat.pow 2 t ≤ num / den := by
    refine (Nat.le_div_iff_mul_le den_pos).2 ?_
    rw [power, Nat.mul_assoc] at below
    rw [Nat.mul_assoc]
    simp only [Nat.pow_eq, Nat.reducePow] at below ⊢
    omega
  exact roundUnits_of_near den_pos (spacing_eq lt (.inr le)) power below (by omega)
    fun odd => absurd odd (by decide)

end Near

/-- **What lies in the interval of a value is rounded to it.** -/
theorem roundUnits_of_contains {units num den : Nat} (representable : Representable units)
    (pos : 0 < units) (den_pos : 0 < den)
    (inside : (interval units).Contains ((num : ℚ) / den)) : roundUnits num den = units := by
  obtain ⟨below, step, lower, upper, odd⟩ := inside.cross pos den_pos
  obtain ⟨m, steps⟩ := representable
  rw [Nat.mul_comm] at steps
  have quotient : units / Nat.pow 2 (spacing units) = m :=
    (congrArg (· / Nat.pow 2 (spacing units)) steps).trans (Nat.mul_div_cancel m (two_pow_pos _))
  have last : m + 1 ≤ Nat.pow 2 53 :=
    Nat.lt_of_mul_lt_mul_right (steps.symm.trans_lt (lt_of_spacing units))
  rw [quotient] at odd
  have lt := quotient_lt den_pos steps last upper
  -- but for what is below a power of two, the quotient has the spacing of the value
  cases step with
  | full other =>
    refine roundUnits_of_near den_pos (spacing_eq lt ?_) steps lower upper odd
    refine (Nat.eq_zero_or_pos _).imp_right fun some => le_quotient den_pos steps ?_ lower
    have full : Nat.pow 2 52 ≤ m :=
      Nat.le_of_mul_le_mul_right ((le_of_spacing some).trans_eq steps) (two_pow_pos _)
    exact Nat.lt_of_le_of_ne full fun eq => other.resolve_left some.ne' (steps.trans
      (congrArg (· * Nat.pow 2 (spacing units)) eq.symm))
  | half some half power =>
    rcases Nat.lt_or_ge num (units * den) with less | more
    · obtain ⟨t, succ⟩ : ∃ t, spacing units = t + 1 := ⟨spacing units - 1, by omega⟩
      have finer : below = Nat.pow 2 t := by
        have : Nat.pow 2 (spacing units) = Nat.pow 2 t * 2 := by rw [succ]; rfl
        omega
      rw [← half, ← Nat.mul_assoc, finer] at power
      exact roundUnits_of_less den_pos power less (finer ▸ lower)
    · refine roundUnits_of_near den_pos (spacing_eq lt (.inr ?_)) steps ?_ upper
        fun h => ⟨?_, (odd h).2⟩
      · rw [← power]
        exact (Nat.le_div_iff_mul_le den_pos).2 more
      · omega
      · omega

/-- **A decimal in the interval of a value** is read as that value. -/
theorem ofDecimal_of_contains {units : Nat} (representable : Representable units)
    (small : units < unitsLimit) (pos : 0 < units) {digits count : Nat} {exponent : Int}
    (some_digit : 0 < digits) (least : -400 ≤ exponent + count) (most : exponent ≤ 400)
    (inside : (interval units).Contains (digits * grid exponent)) (negative : Bool) :
    ofDecimal negative digits count exponent = .finite negative units := by
  have notZero : ¬(digits == 0) = true := by simpa using some_digit.ne'
  have scale_pos := cast_scale_pos exponent
  have scale_pos' : 0 < Nat.pow 10 (-exponent).toNat := Nat.pow_pos (by decide)
  have scaled := cast_point exponent
  unfold ofDecimal
  rw [if_neg notZero, if_neg (by omega), if_neg (by omega), Nat.mul_assoc,
    Nat.mul_comm _ unitsPerOne]
  generalize unitsPerOne * Nat.pow 10 exponent.toNat = point at scaled ⊢
  generalize Nat.pow 10 (-exponent).toNat = scale at scale_pos scale_pos' scaled ⊢
  have value : ((digits * point : Nat) : ℚ) / scale = digits * grid exponent := by
    rw [Nat.cast_mul, scaled, ← mul_assoc, mul_div_cancel_right₀ _ scale_pos.ne']
  rw [← value] at inside
  have rounded := roundUnits_of_contains representable pos scale_pos' inside
  rw [ofUnitRatio_of_lt negative (by rwa [rounded]), rounded]

end Shortest

end MessageIntake.Binary64
