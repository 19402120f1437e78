import MessageIntake.Proofs.Binary64.Intervals
/-!
# The shortest decimal lies in its interval

The grids of decimals become ten times finer from one to the next. A grid has a point in the
interval around a value as soon as its points stand closer than the interval is wide, and this is so
when the leading digit of the value counts `10 ^ 16` points.

Main statements: the search comes to a point of the interval (`contains_decimal`), which has at most
seventeen digits or is the next power of ten (`digits_decimal_le`).
-/

namespace MessageIntake.Binary64.Shortest

/-! ### The points next to a value -/

/-- The number of the last point of a grid that is not above a value. -/
def pointBelow (units : Nat) (k : Int) : Nat :=
  units * Nat.pow 10 (-k).toNat / (unitsPerOne * Nat.pow 10 k.toNat)

theorem pointBelow_bounds (units : Nat) (k : Int) :
    pointBelow units k * grid k ≤ units ∧ units < (pointBelow units k + 1) * grid k := by
  have scale_pos := cast_scale_pos k
  have point_pos : 0 < unitsPerOne * Nat.pow 10 k.toNat :=
    Nat.mul_pos unitsPerOne_pos (Nat.pow_pos (by decide))
  have scaled := cast_point k
  unfold pointBelow
  generalize unitsPerOne * Nat.pow 10 k.toNat = point at point_pos scaled ⊢
  generalize Nat.pow 10 (-k).toNat = scale at scale_pos scaled ⊢
  have le := Nat.cast_le (α := ℚ).2 (Nat.div_mul_le_self (units * scale) point)
  have lt := Nat.cast_lt (α := ℚ).2 (Nat.lt_div_mul_add (a := units * scale) point_pos)
  push_cast [scaled] at le lt
  constructor
  · refine le_of_mul_le_mul_right ?_ scale_pos
    linarith
  · refine lt_of_mul_lt_mul_right ?_ scale_pos.le
    linarith

/-- **A grid is passed over** just if neither neighbour lies in the interval, and else gives one
of them that does. -/
theorem onGrid_cases (units : Nat) (i : Interval) (k : Int) :
    onGrid units i k = none ∧ ¬i.Contains (pointBelow units k * grid k) ∧
        ¬i.Contains ((pointBelow units k + 1 : Nat) * grid k) ∨
      ∃ n, onGrid units i k = some n ∧ (n = pointBelow units k ∨ n = pointBelow units k + 1) ∧
        i.Contains (n * grid k) := by
  unfold onGrid
  extract_lets point scale low high down up
  have below : i.holds (4 * low * point) scale = true ↔ i.Contains (low * grid k) :=
    holds_iff i low k
  have above : i.holds (4 * high * point) scale = true ↔ i.Contains (high * grid k) :=
    holds_iff i high k
  change _ ∧ ¬i.Contains (low * grid k) ∧ ¬i.Contains (high * grid k) ∨
    ∃ n, _ ∧ (n = low ∨ n = high) ∧ _
  clear_value point scale low high down up
  cases lowIn : i.holds (4 * low * point) scale with
  | false =>
    have lowOut := mt below.2 (by simp [lowIn])
    cases highIn : i.holds (4 * high * point) scale with
    | false => exact .inl ⟨rfl, lowOut, mt above.2 (by simp [highIn])⟩
    | true => exact .inr ⟨high, rfl, .inr rfl, above.1 highIn⟩
  | true =>
    cases highIn : i.holds (4 * high * point) scale with
    | false => exact .inr ⟨low, rfl, .inl rfl, below.1 lowIn⟩
    | true =>
      dsimp only
      split
      · exact .inr ⟨low, rfl, .inl rfl, below.1 lowIn⟩
      · exact .inr ⟨high, rfl, .inr rfl, above.1 highIn⟩

/-- **A grid as fine as the seventeenth digit** is not passed over: the interval is wider than its
points stand apart. -/
theorem onGrid_ne_none {units : Nat} (pos : 0 < units) {k : Int}
    (fine : grid k * 10 ^ 16 ≤ units) : onGrid units (interval units) k ≠ none := by
  intro none
  rcases onGrid_cases units (interval units) k with ⟨-, lowOut, highOut⟩ | ⟨n, found, -⟩
  · obtain ⟨low_le, lt_high⟩ := pointBelow_bounds units k
    obtain ⟨below, step, lower, upper⟩ := interval_eq pos
    have below_pos : (0 : ℚ) < below := Nat.cast_pos.2 step.pos
    have above_pos : (0 : ℚ) < (Nat.pow 2 (spacing units) : Nat) :=
      Nat.cast_pos.2 (two_pow_pos _)
    rw [← Nat.cast_add_one] at lt_high
    -- with both points outside, the interval is no wider than the grid
    have low_out : 4 * (pointBelow units k * grid k) ≤ (interval units).lower := by
      by_contra inside
      exact lowOut (Interval.contains_of_lt (not_le.1 inside) (by rw [upper]; linarith))
    have high_out : (interval units).upper ≤ 4 * ((pointBelow units k + 1 : Nat) * grid k) := by
      by_contra inside
      exact highOut (Interval.contains_of_lt (by rw [lower]; linarith) (not_le.1 inside))
    have apart : (below : ℚ) + (Nat.pow 2 (spacing units) : Nat) ≤ 2 * grid k := by
      push_cast at high_out
      linarith
    cases step with
    | full =>
      have lt : (units : ℚ) < 2 ^ 53 * (Nat.pow 2 (spacing units) : Nat) := by
        exact_mod_cast lt_of_spacing units
      linarith
    | half _ half power =>
      have half : (2 * below : ℚ) = (Nat.pow 2 (spacing units) : Nat) := by exact_mod_cast half
      have power : (units : ℚ) = 2 ^ 52 * (Nat.pow 2 (spacing units) : Nat) := by
        exact_mod_cast power
      linarith
  · rw [none] at found
    cases found

/-! ### The leading digit -/

theorem unitsPerOne_lt_pow : unitsPerOne < 10 ^ 324 := by decide +kernel

/-- The places to the first digit of a value below one. -/
theorem placesToOne_spec {units fuel s : Nat} (before : units * 10 ^ s < unitsPerOne)
    (reached : unitsPerOne ≤ units * 10 ^ (s + 1 + fuel)) :
    ∃ j, placesToOne units fuel (s + 1) = j + 1 ∧ units * 10 ^ j < unitsPerOne ∧
      unitsPerOne ≤ units * 10 ^ (j + 1) := by
  induction fuel generalizing s with
  | zero => exact ⟨s, rfl, before, reached⟩
  | succ fuel ih =>
    rw [placesToOne, Nat.pow_eq]
    split
    · next here => exact ⟨s, rfl, before, here⟩
    · next later =>
      refine ih (Nat.not_le.1 later) ?_
      rwa [Nat.add_assoc (s + 1), Nat.add_comm 1 fuel]

/-- **The leading digit** counts the power of ten that the value reaches. -/
theorem leadingExponent_bounds {units : Nat} (pos : 0 < units) :
    grid (leadingExponent units) ≤ units ∧ units < grid (leadingExponent units + 1) := by
  have one_pos := unitsPerOne_cast_pos
  unfold leadingExponent
  split
  · next large =>
    obtain ⟨n, count⟩ : ∃ n, digitCount (units / unitsPerOne) = n + 1 :=
      Nat.exists_eq_add_of_le' (Nat.length_toDigits_pos)
    have quotient_pos : 0 < units / unitsPerOne := Nat.div_pos large unitsPerOne_pos
    have below : units / unitsPerOne < 10 ^ (n + 1) :=
      (Nat.length_toDigits_le_iff (by decide) n.succ_pos).1 count.le
    have above : 10 ^ n ≤ units / unitsPerOne := by
      rcases Nat.eq_zero_or_pos n with rfl | some
      · exact quotient_pos
      · refine Nat.le_of_not_lt fun lt => ?_
        have := (Nat.length_toDigits_le_iff (by decide) some).2 lt
        rw [digitCount] at count
        omega
    have exponent : ((digitCount (units / unitsPerOne) : Nat) : Int) - 1 = n := by omega
    rw [exponent, grid, grid, zpow_natCast, ← Nat.cast_succ n, zpow_natCast]
    have le := (Nat.le_div_iff_mul_le unitsPerOne_pos).1 above
    have lt := (Nat.div_lt_iff_lt_mul unitsPerOne_pos).1 below
    constructor
    · rw [mul_comm]
      exact_mod_cast le
    · rw [mul_comm]
      exact_mod_cast lt
  · next small =>
    have reached : unitsPerOne ≤ units * 10 ^ (0 + 1 + 324) := by
      have grows : 10 ^ 324 ≤ 10 ^ (0 + 1 + 324) := pow_le_pow_right₀ (by decide) (by omega)
      exact (unitsPerOne_lt_pow.trans_le grows).le.trans (Nat.le_mul_of_pos_left _ pos)
    obtain ⟨j, places, before, there⟩ := placesToOne_spec
      (by rwa [Nat.pow_zero, Nat.mul_one, ← Nat.not_le]) reached
    have before := Nat.cast_lt (α := ℚ).2 before
    have there := Nat.cast_le (α := ℚ).2 there
    push_cast at before there
    have up : (10 : ℚ) ^ (-((j : Int) + 1) + 1) = (10 ^ j)⁻¹ := by
      rw [neg_add, neg_add_cancel_right, zpow_neg, zpow_natCast]
    have down : (10 : ℚ) ^ (-((j : Int) + 1)) = (10 ^ (j + 1))⁻¹ := by
      rw [zpow_neg, ← Nat.cast_succ, zpow_natCast]
    rw [places, Nat.cast_succ, grid, grid, up, down]
    exact ⟨(mul_inv_le_iff₀ (by positivity)).2 there, (lt_mul_inv_iff₀ (by positivity)).2 before⟩

/-- No value is less than a unit. -/
theorem le_leadingExponent {units : Nat} (pos : 0 < units) : -324 ≤ leadingExponent units := by
  by_contra small
  have lt := (leadingExponent_bounds pos).2.trans_le
    (grid_mono (by omega : leadingExponent units + 1 ≤ -324))
  have one_le : (1 : ℚ) ≤ units := Nat.one_le_cast.2 pos
  have unit_lt : grid (-324) < 1 := by
    have := Nat.cast_lt (α := ℚ).2 unitsPerOne_lt_pow
    rw [grid, zpow_neg, mul_inv_lt_iff₀ (by positivity), one_mul]
    exact_mod_cast this
  linarith

/-! ### The search -/

/-- **The search ends** on a grid that is not passed over, at the latest on one that is known. -/
theorem search_spec {units : Nat} {i : Interval} {fuel j : Nat} {k : Int} (lt : j < fuel)
    (found : onGrid units i (k - j) ≠ none) :
    onGrid units i (search units i fuel k).exponent = some (search units i fuel k).digits ∧
      k - j ≤ (search units i fuel k).exponent ∧ (search units i fuel k).exponent ≤ k := by
  -- the known grid comes one step nearer with each that is passed over
  induction fuel generalizing j k with
  | zero => exact absurd lt (Nat.not_lt_zero j)
  | succ fuel ih =>
    unfold search
    split
    · next digits here => exact ⟨here, by dsimp only; omega, le_rfl⟩
    · next none =>
      cases j with
      | zero => exact absurd (by simpa using none) found
      | succ j =>
        have next : k - (j + 1 : Nat) = k - 1 - j := by omega
        rw [next] at found
        obtain ⟨here, le, le'⟩ := ih (Nat.lt_of_succ_lt_succ lt) found
        exact ⟨here, by omega, by omega⟩

/-- A point next to a value has at most seventeen digits on a grid as fine as the seventeenth, or is
the next power of ten. -/
theorem pointBelow_digits {units : Nat} (pos : 0 < units) {k : Int}
    (least : leadingExponent units - 16 ≤ k) (most : k ≤ leadingExponent units) :
    0 < pointBelow units k ∧ pointBelow units k < 10 ^ 17 := by
  obtain ⟨low_le, lt_high⟩ := pointBelow_bounds units k
  obtain ⟨leading_le, lt_next⟩ := leadingExponent_bounds pos
  have step_pos := grid_pos k
  constructor
  · have : 1 * grid k < (pointBelow units k + 1) * grid k := by
      rw [one_mul]
      exact ((grid_mono most).trans leading_le).trans_lt lt_high
    have := lt_of_mul_lt_mul_right this step_pos.le
    exact_mod_cast (lt_add_iff_pos_left 1).1 this
  · have reach : grid (leadingExponent units + 1) ≤ 10 ^ 17 * grid k := by
      rw [mul_comm, ← zpow_natCast, ← grid_add]
      exact grid_mono (by omega)
    have := lt_of_mul_lt_mul_right ((low_le.trans_lt lt_next).trans_le reach) step_pos.le
    exact_mod_cast this

/-- **The search succeeds** within seventeen digits. -/
theorem exists_search {units : Nat} (pos : 0 < units) :
    ∃ n k, search units (interval units) 17 (leadingExponent units) = ⟨n, k⟩ ∧
      (interval units).Contains (n * grid k) ∧ 0 < n ∧ n ≤ 10 ^ 17 ∧ -340 ≤ k := by
  have fine : grid (leadingExponent units - (16 : Nat)) * 10 ^ 16 ≤ units := by
    refine le_of_eq_of_le ?_ (leadingExponent_bounds pos).1
    rw [sub_eq_add_neg, grid_add, mul_assoc, zpow_neg, zpow_natCast,
      inv_mul_cancel₀ (by positivity), mul_one]
  obtain ⟨found, least, most⟩ := search_spec (by decide : 16 < 17) (onGrid_ne_none pos fine)
  have least' := le_leadingExponent pos
  generalize search units (interval units) 17 (leadingExponent units) = d at found least most ⊢
  obtain ⟨low_pos, low_lt⟩ := pointBelow_digits pos least most
  refine ⟨d.digits, d.exponent, rfl, ?_⟩
  rcases onGrid_cases units (interval units) d.exponent with ⟨none, -⟩ | ⟨n, found', near, inside⟩
  · rw [found] at none
    cases none
  · rw [found] at found'
    cases found'
    exact ⟨inside, by omega, by omega, by omega⟩

/-! ### Zeros at the end -/

theorem units_strip (fuel : Nat) (d : Decimal) : (strip fuel d).units = d.units := by
  induction fuel generalizing d with
  | zero => rfl
  | succ fuel ih =>
    unfold strip
    split
    · next zeros =>
      obtain ⟨m, ten⟩ : ∃ m, d.digits = m * 10 := by
        simp only [bne_iff_ne, ne_eq, beq_iff_eq, Bool.and_eq_true] at zeros
        exact ⟨d.digits / 10, by omega⟩
      rw [ih, Decimal.units, Decimal.units, grid_add, ten, Nat.mul_div_cancel _ (by decide),
        Nat.cast_mul]
      norm_num
      ring
    · rfl

theorem digits_strip_pos (fuel : Nat) {d : Decimal} (pos : 0 < d.digits) :
    0 < (strip fuel d).digits := by
  induction fuel generalizing d with
  | zero => exact pos
  | succ fuel ih =>
    unfold strip
    split
    · next zeros =>
      simp only [bne_iff_ne, ne_eq, beq_iff_eq, Bool.and_eq_true] at zeros
      exact ih (by dsimp only; omega)
    · exact pos

theorem digits_strip_le (fuel : Nat) (d : Decimal) : (strip fuel d).digits ≤ d.digits := by
  induction fuel generalizing d with
  | zero => exact le_rfl
  | succ fuel ih =>
    unfold strip
    split
    · exact (ih _).trans (Nat.div_le_self _ _)
    · exact le_rfl

theorem le_exponent_strip (fuel : Nat) (d : Decimal) : d.exponent ≤ (strip fuel d).exponent := by
  induction fuel generalizing d with
  | zero => exact le_rfl
  | succ fuel ih =>
    unfold strip
    split
    · exact (Int.le_add_one le_rfl).trans (ih _)
    · exact le_rfl

/-! ### The shortest decimal -/

/-- **The shortest decimal lies in the interval** of its value. -/
theorem contains_decimal {units : Nat} (pos : 0 < units) :
    (interval units).Contains (decimal units).units := by
  obtain ⟨n, k, eq, inside, -⟩ := exists_search pos
  rw [decimal, units_strip, eq]
  exact inside

theorem digits_decimal_pos {units : Nat} (pos : 0 < units) : 0 < (decimal units).digits := by
  obtain ⟨n, k, eq, -, some_digit, -⟩ := exists_search pos
  rw [decimal, eq]
  exact digits_strip_pos 20 some_digit

/-- **Seventeen digits suffice**, or the next power of ten. -/
theorem digits_decimal_le {units : Nat} (pos : 0 < units) :
    (decimal units).digits ≤ 10 ^ 17 := by
  obtain ⟨n, k, eq, -, -, le, -⟩ := exists_search pos
  rw [decimal, eq]
  exact (digits_strip_le 20 ⟨n, k⟩).trans le

theorem le_exponent_decimal {units : Nat} (pos : 0 < units) : -340 ≤ (decimal units).exponent := by
  obtain ⟨n, k, eq, -, -, -, le⟩ := exists_search pos
  rw [decimal, eq]
  exact le.trans (le_exponent_strip 20 ⟨n, k⟩)

end MessageIntake.Binary64.Shortest
