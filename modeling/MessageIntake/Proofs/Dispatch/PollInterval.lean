import MessageIntake.Proofs.Dispatch.Course
import MessageIntake.Proofs.Settings.Accepted
/-!
# Waits and the poll interval

A worker that waits does not poll, and a consumer that does not poll for its interval is put out of
its group. What a dispatch tells the worker to wait is a wait of the policy after an attempt within
its budget, as later attempts are counted as the last one within; so the longest wait, which was
held against the interval before the service started, bounds it.

Main statement: under settings that are accepted, no dispatch in whatever world asks for a wait that
reaches the poll interval (`retry_ends_before_poll_interval`), if no random factor is greater than
1.3.
-/

namespace MessageIntake.Dispatch

open Dialogue (Passage passage_bind_iff)
open Settings (Environment Service)

variable {σ : Type} {W : World api σ} {policy : RetryPolicy} {record : Record} {s s' : σ}
  {events : List (Event σ)} {disposition : Disposition}

/-- **The waits that a policy allows** in a world: those after an attempt within the budget,
stretched by a factor that the world can draw. -/
def Allowed (W : World api σ) (policy : RetryPolicy) (delay : Span) : Prop :=
  ∃ attempt factor, attempt ≤ policy.lastRetryAttempt ∧
    (policy.jitter = true → ∃ s s', W .factor s factor s') ∧ delay = policy.backoff attempt factor

/-- Another delivery is only asked for after a wait that the policy allows. -/
def WaitsAllowed (W : World api σ) (policy : RetryPolicy) (disposition : Disposition) : Prop :=
  ∀ delay attempt reason, disposition = .retry delay attempt reason → Allowed W policy delay

theorem Postpones.waitsAllowed {attempt : Nat} {reason : Reason}
    (h : Postpones W policy attempt reason s events disposition s') :
    WaitsAllowed W policy disposition := by
  cases h with
  | drawn jitter draw =>
    rintro _ _ _ ⟨⟩
    exact ⟨_, _, Nat.min_le_right .., fun _ => ⟨_, _, draw⟩, rfl⟩
  | even jitter =>
    rintro _ _ _ ⟨⟩
    refine ⟨_, .one, Nat.min_le_right .., fun drawn => ?_, rfl⟩
    rw [jitter] at drawn
    cases drawn

theorem Concludes.waitsAllowed {result : Except (Stage × Failure) Outcome}
    (h : Concludes W policy record s result events disposition s') :
    WaitsAllowed W policy disposition := by
  cases h with
  | stored outcome => exact nofun
  | final final rejects =>
    cases rejects with
    | published => exact nofun
    | refused now written publish left => exact left.waitsAllowed
  | further further postpones => exact postpones.waitsAllowed

/-- **A dispatch asks only for waits that its policy allows.** -/
theorem waitsAllowed_of_dispatch
    (h : Passage W (dispatch policy record) s events disposition s') :
    WaitsAllowed W policy disposition := by
  obtain ⟨piped, settled, result, mid, -, -, concludes⟩ := course_of_dispatch h
  exact concludes.waitsAllowed

/-- **No retry wait reaches the poll interval.** Under accepted settings, whatever the record and
its attempt, and however the world answers, as long as it draws no factor greater than 1.3: where a
dispatch leaves its record for another delivery, the wait is no longer than the longest wait of the
policy and than the greatest that it allows, and is over before the consumers have to poll again. -/
theorem retry_ends_before_poll_interval {env : Environment} {service : Service}
    (accepted : Service.ofEnvironment? env = .ok service)
    (drawn : ∀ s factor s', W .factor s factor s' →
      (Binary64.ofDecimal false 13 2 (-1)).less factor = false)
    {delay : Span} {attempt : Nat} {reason : Reason}
    (h : Passage W (dispatch service.retry record) s events (.retry delay attempt reason) s') :
    delay.nanos ≤ service.retry.longestBackoff.nanos ∧
      delay.nanos ≤ service.retry.maxBackoff.nanos ∧
      delay.nanos < (Span.ofMillis service.broker.maxPollInterval).nanos := by
  obtain ⟨within, factor, le, jittered, rfl⟩ := waitsAllowed_of_dispatch h _ _ _ rfl
  have longest :
      (service.retry.backoff within factor).nanos ≤ service.retry.longestBackoff.nanos := by
    refine (Service.sound_of_ofEnvironment accepted).backoff_le_longestBackoff le fun jitter => ?_
    obtain ⟨s, s', drew⟩ := jittered jitter
    rw [RetryPolicy.greatestFactor_eq]
    exact drawn s factor s' drew
  exact ⟨longest, RetryPolicy.backoff_nanos_le .., longest.trans_lt
    (Service.longestBackoff_lt_of_ofEnvironment accepted)⟩

/-- **A tombstone whose letter is refused**, long past the budget, waits with a factor of 1.25, and
in time for the next poll. -/
theorem refused_tombstone_polls_in_time :
    ∃ (env : Environment) (service : Service) (record : Record) (W : World api Unit)
      (events : List (Event Unit)) (delay : Span),
      Service.ofEnvironment? env = .ok service ∧ service.retry.jitter = true ∧
        service.retry.maxAttempts < record.attempt ∧
        Passage W (dispatch service.retry record) () events
          (.retry delay record.attempt .deadLetterUnavailable) () ∧
        delay.nanos ≤ service.retry.longestBackoff.nanos ∧
        delay.nanos < (Span.ofMillis service.broker.maxPollInterval).nanos := by
  let env : Environment :=
    ((Environment.empty.set "DATABASE_URL" "postgres://localhost/messages").set
      "RETRY_MAX_ATTEMPTS" "3").set "RETRY_JITTER" "true"
  let record : Record := ⟨"chat", 0, 0, none, none, 9⟩
  let factor : Binary64 := .ofDecimal false 125 3 (-2)
  let W : World api Unit := fun q _ a _ =>
    match q, a with
    | .publish .., a => a = .error (.undecodable "refused")
    | .factor, a => a = factor
    | _, _ => True
  have read : (Service.ofEnvironment? env).toOption.map
      (fun service => (service.retry.jitter, service.retry.maxAttempts)) = some (true, 3) := by
    decide +kernel
  have drawn : ∀ s x s', W .factor s x s' →
      (Binary64.ofDecimal false 13 2 (-1)).less x = false := by
    intro s x s' eq
    have eq : x = factor := eq
    rw [eq]
    decide +kernel
  have drew : W .factor () factor () := rfl
  have now : W .now () Timestamp.epoch () := True.intro
  have refused : ∀ letter, W (.publish record letter) () (.error (.undecodable "refused")) () :=
    fun _ => rfl
  clear_value W
  match same : Service.ofEnvironment? env with
  | .error fault =>
    rw [same] at read
    cases read
  | .ok service =>
    obtain ⟨jitter, attempts⟩ : service.retry.jitter = true ∧ service.retry.maxAttempts = 3 := by
      simpa [same, Except.toOption] using read
    let delay := service.retry.backoff (Nat.min 9 service.retry.lastRetryAttempt) factor
    let left : Disposition := .retry delay 9 .deadLetterUnavailable
    let result : Except (Stage × Failure) Outcome :=
      .error (.reading, .undecodable PayloadFault.missing.message)
    have waits : ∃ events,
        Passage W (retryLater service.retry 9 .deadLetterUnavailable) () events left () := by
      rw [retryLater, drawFactor, if_pos jitter]
      exact ⟨_, .tell <| .ask drew .done⟩
    obtain ⟨waiting, waits⟩ := waits
    have piped : Passage W (pipeline record) () [.told (moveLine .received .reading)] result () :=
      .tell .done
    have settled : ∃ events, Passage W (settle service.retry record result) () events left () :=
      ⟨_, .tell <| .tell <| .ask now <| .ask (refused _) <| .tell waits⟩
    obtain ⟨settling, settled⟩ := settled
    have passage : ∃ events, Passage W (dispatch service.retry record) () events left () :=
      ⟨_, passage_bind_iff.2 ⟨_, _, _, _, rfl, piped,
        passage_bind_iff.2 ⟨_, _, _, _, rfl, settled, .tell <| .tell .done⟩⟩⟩
    obtain ⟨events, passage⟩ := passage
    have ends := retry_ends_before_poll_interval same drawn passage
    exact ⟨env, service, record, W, _, _, same, jitter, by rw [attempts]; decide, passage, ends.1,
      ends.2.2⟩

end MessageIntake.Dispatch
