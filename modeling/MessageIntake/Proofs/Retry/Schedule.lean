import MessageIntake.Proofs.Binary64.Wholes
import MessageIntake.Proofs.Retry.Longest
/-!
# The schedule in whole milliseconds

The waits of a policy whose spans are whole milliseconds, and whose multiplier is a whole number.
The product of the first wait with a power of the multiplier is exact as long as it is below
`2 ^ 53` milliseconds, and where it is not it is above the longest wait all the same. So each wait
is the documented one, in the arithmetic of whole numbers (`backoff_eq_of_whole`).

There is one exception. A policy that begins with no wait at all is to have none later; but zero
times a power that is infinite is no number, and the lesser of that and the longest wait is the
longest wait (`backoff_of_zero_reaches_cap`).
-/

namespace MessageIntake

theorem Span.millis_ofMillis (n : Nat) : (Span.ofMillis n).millis = n :=
  Nat.mul_div_cancel n (by decide)

/-- The shorter of two spans of whole milliseconds. -/
theorem Span.min_ofMillis {n cap : Nat} (le : n ≤ cap) :
    (Span.ofMillis n).min (.ofMillis cap) = .ofMillis n :=
  if_neg (Nat.not_lt.2 (Nat.mul_le_mul_right _ le))

namespace RetryPolicy

open Binary64 (ofUnits unitsOf unitsPerOne unitsLimit mulUnits powerUnits wholeLimit Holds)

/-! ### The capped product -/

/-- A whole number up to the limit is cut to itself. -/
theorem toNatSaturating_whole {n limit : Nat} (le : n ≤ wholeLimit) (le' : n ≤ limit) :
    (ofUnits (n * unitsPerOne)).toNatSaturating limit = n := by
  have finite : n * unitsPerOne < unitsLimit :=
    (Nat.mul_le_mul_right _ le).trans_lt (by decide +kernel)
  rw [Binary64.ofUnits_of_lt finite, Binary64.toNatSaturating_finite,
    Nat.mul_div_cancel n Binary64.unitsPerOne_pos, Nat.min_eq_left le']

/-- The lesser of what holds a number and of a cap that is exact. -/
theorem min_units_of_holds {u n cap : Nat} (h : Holds u n) (small : cap < wholeLimit) :
    min u (unitsOf cap) = min n cap * unitsPerOne := by
  rw [(Binary64.holds_unitsOf cap).exact small]
  rcases Nat.lt_or_ge n wholeLimit with exact | large
  · rw [h.exact exact, Nat.mul_min_mul_right]
  · have le : cap * unitsPerOne ≤ u :=
      (Nat.mul_le_mul_right _ small.le).trans (h.large large)
    rw [Nat.min_eq_right le, Nat.min_eq_right (small.le.trans large)]

/-- **The capped product** of a wait with a power that holds a number. -/
theorem capped_of_holds {initial cap limit u n : Nat} (pos : 0 < initial) (h : Holds u n)
    (pos' : 0 < n) (small : cap < wholeLimit) (le : cap ≤ limit) :
    (((Binary64.ofNat initial).mul (ofUnits u)).minimum (.ofNat cap)).toNatSaturating limit =
      min (initial * n) cap := by
  have first := Binary64.holds_unitsOf initial
  have product := first.mul h pos pos'
  have least : min (initial * n) cap ≤ cap := Nat.min_le_right ..
  rw [Binary64.ofNat_eq, Binary64.ofNat_eq, Binary64.mul_ofUnits (first.one_le pos)
    (h.one_le pos'), Binary64.minimum_ofUnits, min_units_of_holds product small]
  exact toNatSaturating_whole (least.trans small.le) (least.trans le)

/-- **The capped product of no wait** with a power: nothing, unless the power is infinite. -/
theorem capped_of_zero {cap limit u : Nat} (small : cap < wholeLimit) (le : cap ≤ limit) :
    (((Binary64.ofNat 0).mul (ofUnits u)).minimum (.ofNat cap)).toNatSaturating limit =
      if (ofUnits u).isFinite = true then 0 else cap := by
  rw [Binary64.ofNat_eq, Binary64.ofNat_eq, Binary64.unitsOf_zero, Binary64.zero_mul_ofUnits]
  simp only [Binary64.isFinite_ofUnits]
  split
  · rw [Binary64.minimum_ofUnits, Nat.zero_min, Binary64.toNatSaturating_zero]
  · have passed : (Binary64.nan false).minimum (ofUnits (unitsOf cap)) = ofUnits (unitsOf cap) := by
      rcases Binary64.ofUnits_eq (unitsOf cap) with eq | eq <;> rw [eq] <;> rfl
    rw [passed, (Binary64.holds_unitsOf cap).exact small]
    exact toNatSaturating_whole small.le le

/-! ### Exponents beyond the greatest -/

/-- What does not change any more from the exponent 1024 on does not hang on exponents being
limited. -/
theorem eq_of_settled {β : Type} (f : Nat → β) (settled : ∀ k, 1024 ≤ k → f k = f 1024) (n : Nat) :
    f (Nat.min n exponentLimit) = f n := by
  rcases Nat.le_total n exponentLimit with le | le
  · exact congrArg f (Nat.min_eq_left le)
  · have large : 1024 ≤ exponentLimit := by decide
    calc
      f (Nat.min n exponentLimit) = f exponentLimit := congrArg f (Nat.min_eq_right le)
      _ = f 1024 := settled _ large
      _ = f n := (settled n (large.trans le)).symm

variable {initial cap m : Nat}

/-- A whole multiplier is not less than one. -/
theorem maximum_whole (pos : 0 < m) : (Binary64.ofNat m).maximum .one = .ofNat m := by
  rw [Binary64.ofNat_eq, Binary64.maximum_one ((Binary64.holds_unitsOf m).one_le pos)]

/-- The power of a whole number, as the squaring loop takes it. -/
theorem power_whole (pos : 0 < m) (n : Nat) :
    (Binary64.ofNat m).power n = ofUnits (powerUnits unitsPerOne (unitsOf m) n) := by
  rw [Binary64.ofNat_eq, Binary64.power_ofUnits n ((Binary64.holds_unitsOf m).one_le pos)]

/-- It holds the power. -/
theorem holds_power (pos : 0 < m) (n : Nat) :
    Holds (powerUnits unitsPerOne (unitsOf m) n) (Nat.pow m n) := by
  have := Binary64.holds_one.power (Binary64.holds_unitsOf m) Nat.one_pos pos n
  rwa [Nat.one_mul] at this

/-- A multiplier of at least two has infinite powers from the exponent 1024 on. -/
theorem infinite_power (two : 2 ≤ m) {n : Nat} (large : 1024 ≤ n) :
    ((Binary64.ofNat m).power n).isFinite = false := by
  have base : Nat.pow 2 1 * unitsPerOne ≤ unitsOf m := by
    have exact : unitsOf 2 = 2 * unitsPerOne := (Binary64.holds_unitsOf 2).exact (by decide)
    rw [Nat.pow_eq, Nat.pow_one, ← exact]
    exact Binary64.unitsOf_mono two
  rw [power_whole (Nat.zero_lt_of_lt two), Bool.eq_false_iff, ne_eq, Binary64.isFinite_ofUnits,
    Nat.not_lt]
  exact Binary64.unitsLimit_le_powerUnits base large

/-- **A documented wait** is the longest one from the exponent 1024 on, unless nothing is to be
multiplied. -/
theorem scheduled_eq_cap (pos : 0 < initial) (two : 2 ≤ m) (small : cap < wholeLimit) {n : Nat}
    (large : 1024 ≤ n) : Nat.min (initial * Nat.pow m n) cap = cap := by
  refine Nat.min_eq_right ?_
  have fits : 53 ≤ n := Nat.le_trans (by decide) large
  calc
    cap ≤ Nat.pow 2 53 := small.le
    _ ≤ Nat.pow 2 n := Binary64.two_pow_le fits
    _ ≤ Nat.pow m n := Nat.pow_le_pow_left two n
    _ ≤ initial * Nat.pow m n := Nat.le_mul_of_pos_left _ pos

/-- The powers of one are finite. -/
theorem finite_power_one (n : Nat) : ((Binary64.ofNat 1).power n).isFinite = true := by
  have one := holds_power Nat.one_pos n
  rw [Nat.pow_eq, Nat.one_pow] at one
  rw [power_whole Nat.one_pos, Binary64.isFinite_ofUnits, one.exact (by decide), Nat.one_mul]
  exact Binary64.unitsPerOne_lt

/-! ### The schedule -/

/-- The wait after an attempt, before it is spread, in milliseconds. -/
theorem baseBackoff_whole {p : RetryPolicy} (begins : p.initialBackoff = .ofMillis initial)
    (capped : p.maxBackoff = .ofMillis cap) (whole : p.multiplier = .ofNat m) (pos : 0 < m)
    (small : cap < wholeLimit) (attempt : Nat) :
    p.baseBackoff attempt = .ofMillis (
      if initial = 0 then
        if ((Binary64.ofNat m).power (attempt - 1)).isFinite = true then 0 else cap
      else Nat.min (initial * Nat.pow m (attempt - 1)) cap) := by
  have le : cap ≤ millisLimit := small.le.trans (by decide)
  rw [baseBackoff, begins, capped, whole, maximum_whole pos, Span.millis_ofMillis,
    Span.millis_ofMillis]
  rcases Nat.eq_zero_or_pos initial with rfl | some
  · rw [if_pos rfl]
    rw [power_whole pos, capped_of_zero small le, ← power_whole pos]
    refine congrArg Span.ofMillis (eq_of_settled
      (fun n => if ((Binary64.ofNat m).power n).isFinite = true then 0 else cap) (fun k large => ?_)
      (attempt - 1))
    rcases Nat.lt_or_eq_of_le pos with two | rfl
    · rw [infinite_power two large, infinite_power two le_rfl]
    · rw [finite_power_one, finite_power_one]
  · rw [if_neg some.ne']
    rw [power_whole pos, capped_of_holds some (holds_power pos _) (Nat.pow_pos pos) small le]
    refine congrArg Span.ofMillis (eq_of_settled
      (fun n => Nat.min (initial * Nat.pow m n) cap) (fun k large => ?_) (attempt - 1))
    rcases Nat.lt_or_eq_of_le pos with two | rfl
    · rw [scheduled_eq_cap some two small large, scheduled_eq_cap some two small le_rfl]
    · simp only [Nat.pow_eq, Nat.one_pow]

/-- **The schedule of a policy in whole numbers.** Without jitter, with spans of whole milliseconds,
the longest below `2 ^ 53` of them, and a whole multiplier of at least one: the wait after an
attempt is the initial one times the power of the multiplier, and at most the longest one. Only if
there is nothing to multiply, and the power is infinite, the wait is the longest one and not
nothing; for a multiplier of at least two it is so after each attempt from the 1025th on. -/
theorem backoff_eq_of_whole {p : RetryPolicy} (steady : p.jitter = false)
    (begins : p.initialBackoff = .ofMillis initial) (capped : p.maxBackoff = .ofMillis cap)
    (small : cap < wholeLimit) (whole : p.multiplier = .ofNat m) (pos : 1 ≤ m) (attempt : Nat)
    (factor : Binary64) :
    p.backoff attempt factor = .ofMillis (
      if initial = 0 ∧ ((Binary64.ofNat m).power (attempt - 1)).isFinite = false then cap
      else Nat.min (initial * Nat.pow m (attempt - 1)) cap) ∧
    (initial = 0 → 2 ≤ m → 1024 < attempt → p.backoff attempt factor = .ofMillis cap) := by
  have scheduled : p.backoff attempt factor = .ofMillis (
      if initial = 0 ∧ ((Binary64.ofNat m).power (attempt - 1)).isFinite = false then cap
      else Nat.min (initial * Nat.pow m (attempt - 1)) cap) := by
    have base := baseBackoff_whole begins capped whole pos small attempt
    rw [backoff, steady, if_neg Bool.false_ne_true, base, capped]
    by_cases none : initial = 0
    · cases finite : ((Binary64.ofNat m).power (attempt - 1)).isFinite with
      | true =>
        rw [if_pos none, if_pos rfl, if_neg (fun h => Bool.false_ne_true h.2.symm), none,
          Nat.zero_mul]
        exact (Span.min_ofMillis (Nat.zero_le cap)).trans (congrArg _ (Nat.zero_min cap).symm)
      | false =>
        rw [if_pos none, if_neg Bool.false_ne_true, if_pos ⟨none, rfl⟩]
        exact Span.min_ofMillis le_rfl
    · rw [if_neg none, if_neg (fun h => none h.1)]
      exact Span.min_ofMillis (Nat.min_le_right ..)
  refine ⟨scheduled, fun none two late => ?_⟩
  have infinite : ((Binary64.ofNat m).power (attempt - 1)).isFinite = false :=
    infinite_power two (by omega)
  rw [scheduled, if_pos ⟨none, infinite⟩]

theorem exists_steady (initial cap : Span) (multiplier : Binary64) :
    ∃ p : RetryPolicy, p.jitter = false ∧ p.initialBackoff = initial ∧ p.maxBackoff = cap ∧
      p.multiplier = multiplier :=
  ⟨⟨5, initial, cap, multiplier, false⟩, rfl, rfl, rfl, rfl⟩

/-- **A policy that begins with one second** waits 125 seconds after the fourth attempt, and one
that begins with nothing waits for nothing after the 1024th, and as long as ever after the next. -/
theorem waits_from_second_and_from_nothing :
    ∃ p q : RetryPolicy, p.jitter = false ∧ p.initialBackoff = .ofMillis 1000 ∧
      p.maxBackoff = .ofMillis 660000 ∧ p.multiplier = .ofNat 5 ∧ q.jitter = false ∧
      q.initialBackoff = .ofMillis 0 ∧ q.maxBackoff = .ofMillis 660000 ∧ q.multiplier = .ofNat 2 ∧
      660000 < wholeLimit ∧ p.backoff 4 .one = .ofMillis 125000 ∧
      q.backoff 1024 .one = .ofMillis 0 ∧ q.backoff 1025 .one = .ofMillis 660000 := by
  obtain ⟨p, steady, begins, capped, whole⟩ :=
    exists_steady (.ofMillis 1000) (.ofMillis 660000) (.ofNat 5)
  obtain ⟨q, steady', begins', capped', whole'⟩ :=
    exists_steady (.ofMillis 0) (.ofMillis 660000) (.ofNat 2)
  have small : 660000 < wholeLimit := by decide
  have fourth := (backoff_eq_of_whole steady begins capped small whole (by decide) 4 .one).1
  have finite := (backoff_eq_of_whole steady' begins' capped' small whole' (by decide) 1024 .one).1
  have beyond := (backoff_eq_of_whole steady' begins' capped' small whole' (by decide) 1025 .one).2
  refine ⟨p, q, steady, begins, capped, whole, steady', begins', capped', whole', small, ?_, ?_,
    beyond rfl (by decide) (by decide)⟩
  · rw [fourth, if_neg (fun h => absurd h.1 (by decide))]
    rfl
  have last : ((Binary64.ofNat 2).power 1023).isFinite = true := by decide +kernel
  rw [finite, if_neg (fun h => Bool.false_ne_true (h.2.symm.trans last))]
  simp only [Nat.zero_mul]
  rfl

/-- **No wait becomes the longest one**: the documented schedule is not that of every policy. -/
theorem backoff_of_zero_reaches_cap :
    ¬∀ (p : RetryPolicy) (initial cap m attempt : Nat) (factor : Binary64), p.jitter = false →
      p.initialBackoff = .ofMillis initial → initial < wholeLimit →
      p.maxBackoff = .ofMillis cap → cap < wholeLimit → p.multiplier = .ofNat m → 1 ≤ m →
      1 ≤ attempt →
      p.backoff attempt factor = .ofMillis (Nat.min (initial * Nat.pow m (attempt - 1)) cap) := by
  intro documented
  obtain ⟨p, steady, begins, capped, whole⟩ :=
    exists_steady (.ofMillis 0) (.ofMillis 660000) (.ofNat 2)
  have small : 660000 < wholeLimit := by decide
  have nothing := documented p 0 660000 2 1025 .one steady begins (by decide) capped small whole
    (by decide) (by decide)
  have infinite : ((Binary64.ofNat 2).power (1025 - 1)).isFinite = false := by decide +kernel
  have longest := baseBackoff_whole begins capped whole (by decide) small 1025
  rw [if_pos rfl, infinite, if_neg Bool.false_ne_true] at longest
  rw [backoff, steady, if_neg Bool.false_ne_true, longest, capped,
    Span.min_ofMillis le_rfl] at nothing
  simp only [Nat.zero_mul] at nothing
  exact absurd nothing (by decide)

end RetryPolicy

end MessageIntake
