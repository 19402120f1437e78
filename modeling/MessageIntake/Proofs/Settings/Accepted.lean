import MessageIntake.Proofs.Retry.Longest
import MessageIntake.Proofs.Success
import MessageIntake.Settings.Service
/-!
# Accepted settings

What is known of the settings in an environment once they are accepted.

Main statements: the retry policy is sound (`sound_of_service`), and its longest wait is over before
the consumers have to poll again (`longestBackoff_lt_of_service`).
-/

namespace MessageIntake.Settings

/-- **What holds of the default and of all that can be read** holds of a strict value. -/
theorem Environment.of_strict {α : Type} {P : α → Prop} {env : Environment} {read : Reading α}
    {key : String} {default value : α} (h : env.strict read key default = .ok value)
    (holds : P default) (reads : ∀ text found, read text = some found → P found) : P value := by
  unfold Environment.strict at h
  split at h
  · exact Except.ok.inj h ▸ holds
  · next raw _ =>
    split at h
    · exact Except.ok.inj h ▸ holds
    · split at h
      · next found read => exact Except.ok.inj h ▸ reads _ found read
      · cases h

variable {env : Environment}

/-- The multiplier of a policy is one that rounding can give. -/
theorem Backoff.regular_of_unchecked {p : RetryPolicy} (h : Backoff.unchecked env = .ok p) :
    Binary64.Regular p.multiplier := by
  obtain ⟨maxAttempts, -, h⟩ := bind_eq_ok_iff.1 h
  obtain ⟨initial, -, h⟩ := bind_eq_ok_iff.1 h
  obtain ⟨max, -, h⟩ := bind_eq_ok_iff.1 h
  obtain ⟨multiplier, read, h⟩ := bind_eq_ok_iff.1 h
  obtain ⟨jitter, -, h⟩ := bind_eq_ok_iff.1 h
  cases h
  have default : Binary64.Regular RetryPolicy.default.multiplier := by
    simp only [RetryPolicy.default]
    exact Binary64.regular_ofNat 5
  exact Environment.of_strict read default fun _ _ => Binary64.regular_of_ofText?

theorem Backoff.multiplier_of_faultless {p : RetryPolicy} (h : Backoff.fault? p = none) :
    p.multiplier.isFinite = true ∧ p.multiplier.less .one = false := by
  unfold Backoff.fault? at h
  split at h
  · cases h
  split at h
  · cases h
  · next sensible =>
    simpa using sensible

/-- **A policy that is accepted is sound.** -/
theorem Backoff.sound_of_ofEnvironment {p : RetryPolicy}
    (h : Backoff.ofEnvironment? env = .ok p) : p.Sound := by
  unfold Backoff.ofEnvironment? at h
  split at h
  · cases h
  · next policy unchecked =>
    split at h
    · cases h
    · next faultless =>
      cases h
      obtain ⟨finite, least⟩ := Backoff.multiplier_of_faultless faultless
      exact ⟨Backoff.regular_of_unchecked unchecked, finite, least⟩

variable {service : Service}

/-- The parts of accepted settings are accepted, and the policy fits the consumers. -/
theorem Service.retry_of_ofEnvironment (h : Service.ofEnvironment? env = .ok service) :
    Backoff.ofEnvironment? env = .ok service.retry ∧
      service.retry.fitsPollInterval service.broker.maxPollInterval = .ok () := by
  simp only [Service.ofEnvironment?, bind_eq_ok_iff, mapError_eq_ok_iff] at h
  obtain ⟨database, -, broker, -, retry, accepted, ⟨⟩, fits, logFormat, -, eq⟩ := h
  cases eq
  exact ⟨accepted, fits⟩

/-- **The policy of accepted settings is sound.** -/
theorem Service.sound_of_ofEnvironment (h : Service.ofEnvironment? env = .ok service) :
    service.retry.Sound :=
  Backoff.sound_of_ofEnvironment (Service.retry_of_ofEnvironment h).1

/-- **The longest wait of accepted settings** is over before the consumers have to poll. -/
theorem Service.longestBackoff_lt_of_ofEnvironment
    (h : Service.ofEnvironment? env = .ok service) :
    service.retry.longestBackoff.nanos < (Span.ofMillis service.broker.maxPollInterval).nanos := by
  have fits := (Service.retry_of_ofEnvironment h).2
  unfold RetryPolicy.fitsPollInterval at fits
  split at fits
  · cases fits
  · next lt => exact Nat.lt_of_not_le lt

end MessageIntake.Settings
