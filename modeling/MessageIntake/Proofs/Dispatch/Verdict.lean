import MessageIntake.Proofs.Dispatch.Course
/-!
# What becomes of a record

How a dispatch goes in whatever world. Along its way the world may record letters and refuse
others; `letters` and `refusals` read both off the events, a letter being recorded just if its
publishing was answered with success. A `Verdict` says what follows from what came of the
pipeline: what the record is settled with, which letters were recorded meanwhile, and how many
were refused.

Main statement: a dispatch is a passage through the pipeline, and a verdict on what came of it
(`verdict_of_dispatch`).
-/

namespace MessageIntake.Dispatch

open Dialogue (Passage)

variable {σ : Type}

/-! ### Letters along the way -/

/-- The letter that an event recorded. -/
def letter? : Event σ → Option Letter
  | .answered (.publish _ letter) (.ok ()) _ => some letter
  | _ => none

/-- In this event a letter was refused. -/
def isRefusal : Event σ → Bool
  | .answered (.publish ..) (.error _) _ => true
  | _ => false

/-- **The letters that were recorded**, the oldest first. -/
def letters (events : List (Event σ)) : List Letter := events.filterMap letter?

/-- **How many letters were refused.** -/
def refusals (events : List (Event σ)) : Nat := events.countP isRefusal

@[simp] theorem letters_nil : letters ([] : List (Event σ)) = [] := rfl

@[simp] theorem letters_append (events later : List (Event σ)) :
    letters (events ++ later) = letters events ++ letters later := List.filterMap_append

theorem letters_flatMap {α : Type} (l : List α) (f : α → List (Event σ)) :
    letters (l.flatMap f) = l.flatMap fun a => letters (f a) := List.filterMap_flatMap

theorem letters_cons (e : Event σ) (events : List (Event σ)) :
    letters (e :: events) = (letter? e).toList ++ letters events := by
  rw [letters, List.filterMap_cons]
  cases letter? e <;> rfl

@[simp] theorem letters_told (note : Telemetry) (events : List (Event σ)) :
    letters (.told note :: events) = letters events := rfl

@[simp] theorem refusals_nil : refusals ([] : List (Event σ)) = 0 := rfl

@[simp] theorem refusals_append (events later : List (Event σ)) :
    refusals (events ++ later) = refusals events + refusals later := List.countP_append

theorem refusals_cons (e : Event σ) (events : List (Event σ)) :
    refusals (e :: events) = refusals events + if isRefusal e then 1 else 0 :=
  List.countP_cons

@[simp] theorem refusals_told (note : Telemetry) (events : List (Event σ)) :
    refusals (.told note :: events) = refusals events := rfl

/-- Only a publishing records or refuses a letter. -/
theorem letters_answered (question : Question) (answer : api.Answer question) (state : σ)
    (aside : ∀ record letter, question ≠ .publish record letter) (events : List (Event σ)) :
    letters (.answered question answer state :: events) = letters events ∧
      refusals (.answered question answer state :: events) = refusals events := by
  cases question with
  | publish record letter => exact absurd rfl (aside record letter)
  | store | now | factor => exact ⟨rfl, rfl⟩

/-- Letters do not hang on how the states are seen. -/
theorem letters_mapState {τ : Type} (f : σ → τ) (events : List (Event σ)) :
    letters (events.map (.mapState f)) = letters events := by
  have same : letter? ∘ Dialogue.Event.mapState f = (letter? : Event σ → Option Letter) := by
    funext e
    cases e with
    | told note => rfl
    | answered q a state =>
      cases q with
      | publish record letter => cases a <;> rfl
      | store | now | factor => rfl
  rw [letters, List.filterMap_map, same, letters]

/-! ### Verdicts -/

/-- The letter of a record whose failure is final. -/
def letterOf (record : Record) (failure : Failure) (failedAt : Timestamp) : Letter :=
  .ofRecord record failure.failureClass (finalReason failure) (finalDetail failure)
    (attemptOf record) failedAt

/-- The wait before another delivery of a record. -/
def delayOf (policy : RetryPolicy) (record : Record) (factor : Binary64) : Span :=
  policy.backoff (Nat.min (attemptOf record) policy.lastRetryAttempt) factor

/-- **The verdict on a record**, by what came of the pipeline: how the record is to be settled,
the letters that were recorded, and how many were refused. -/
inductive Verdict (policy : RetryPolicy) (record : Record) :
    Except (Stage × Failure) Outcome → Disposition → List Letter → Nat → Prop where
  | stored (outcome : Outcome) : Verdict policy record (.ok outcome) (.acked outcome) [] 0
  | lettered {stage : Stage} {failure : Failure} (failedAt : Timestamp)
      (final : isFinal policy record failure = true) :
      Verdict policy record (.error (stage, failure))
        (.deadLettered (finalReason failure) failure.failureClass (attemptOf record))
        [letterOf record failure failedAt] 0
  | refused {stage : Stage} {failure : Failure} (factor : Binary64)
      (final : isFinal policy record failure = true) :
      Verdict policy record (.error (stage, failure))
        (.retry (delayOf policy record factor) (attemptOf record) .deadLetterUnavailable) [] 1
  | postponed {stage : Stage} {failure : Failure} (factor : Binary64)
      (further : isFinal policy record failure = false) :
      Verdict policy record (.error (stage, failure))
        (.retry (delayOf policy record factor) (attemptOf record) failure.reason) [] 0

section

variable {policy : RetryPolicy} {record : Record}
  {result : Except (Stage × Failure) Outcome} {disposition : Disposition}
  {recorded : List Letter} {refused : Nat}

/-- Nothing is recorded of a record that is left for another delivery. -/
theorem Verdict.letters_of_left
    (verdict : Verdict policy record result disposition recorded refused)
    (left : disposition.shouldAck = false) : recorded = [] := by
  cases verdict with
  | stored | lettered => cases left
  | refused | postponed => rfl

/-- A record is dead-lettered with the attempt that its delivery counts as. -/
theorem Verdict.attempt_of_lettered {reason : Reason} {failureClass : FailureClass}
    {attempt : Nat}
    (verdict : Verdict policy record result (.deadLettered reason failureClass attempt) recorded
      refused) : attempt = attemptOf record := by
  cases verdict
  rfl

end

/-- **Only the store of a world has a state.** -/
def StoreOnly (W : World api σ) : Prop :=
  ∀ q s a s', (∀ p, q ≠ .store p) → W q s a s' → s' = s

variable {W : World api σ} {policy : RetryPolicy} {record : Record} {s s' : σ}
  {events : List (Event σ)} {disposition : Disposition}

/-- Leaving a record concerns no letter. -/
theorem Postpones.quiet (alone : StoreOnly W) {attempt : Nat} {reason : Reason}
    (h : Postpones W policy attempt reason s events disposition s') :
    s' = s ∧ letters events = [] ∧ refusals events = 0 ∧ ∃ factor,
      disposition =
        .retry (policy.backoff (Nat.min attempt policy.lastRetryAttempt) factor) attempt
          reason := by
  cases h with
  | drawn jitter draw => exact ⟨alone _ _ _ _ (by simp) draw, rfl, rfl, _, rfl⟩
  | even => exact ⟨rfl, rfl, rfl, _, rfl⟩

/-- **Settling what came of the pipeline** gives the verdict. -/
theorem Concludes.verdict (alone : StoreOnly W) {result : Except (Stage × Failure) Outcome}
    (h : Concludes W policy record s result events disposition s') :
    s' = s ∧ Verdict policy record result disposition (letters events) (refusals events) := by
  cases h with
  | stored outcome =>
    have quiet : letters ((storedMarks outcome).map .told : List (Event σ)) = [] ∧
        refusals ((storedMarks outcome).map .told : List (Event σ)) = 0 := by
      unfold storedMarks
      split <;> exact ⟨rfl, rfl⟩
    rw [quiet.1, quiet.2]
    exact ⟨rfl, .stored outcome⟩
  | final final rejects =>
    cases rejects with
    | published now written publish =>
      obtain rfl := alone _ _ _ _ (by simp) now
      obtain rfl := alone _ _ _ _ (by simp) publish
      exact ⟨rfl, written ▸ .lettered _ final⟩
    | refused now written publish left =>
      obtain rfl := alone _ _ _ _ (by simp) now
      obtain rfl := alone _ _ _ _ (by simp) publish
      obtain ⟨rfl, unlettered, unrefused, factor, rfl⟩ := left.quiet alone
      refine ⟨rfl, ?_⟩
      rw [letters_told, letters_told, refusals_told, refusals_told, letters_cons, letters_cons,
        letters_told, unlettered, refusals_cons, refusals_cons, refusals_told, unrefused]
      exact .refused factor final
  | further further postpones =>
    obtain ⟨rfl, unlettered, unrefused, factor, rfl⟩ := postpones.quiet alone
    rw [letters_told, letters_told, refusals_told, refusals_told, unlettered, unrefused]
    exact ⟨rfl, .postponed factor further⟩

/-! ### A whole dispatch -/

/-- **What comes of the pipeline**, and the state that it leaves: only an event that was read and
accepted comes to the store. -/
inductive Piped (W : World api σ) (record : Record) (s : σ) :
    Except (Stage × Failure) Outcome → σ → Prop where
  | unread {fault : PayloadFault} (read : ChatEvent.ofPayload? record.payload = .error fault) :
      Piped W record s (.error (.reading, .undecodable fault.message)) s
  | unaccepted {event : ChatEvent} {receivedAt : Timestamp} {failure : Failure}
      (read : ChatEvent.ofPayload? record.payload = .ok event)
      (accept : event.accept receivedAt = .error failure) :
      Piped W record s (.error (.accepting, failure)) s
  | persisted {event : ChatEvent} {receivedAt : Timestamp} {accepted : AcceptedEvent}
      {own : List (Dialogue.Event Store.api Telemetry σ)} {result : Except Failure Outcome}
      {s' : σ} (read : ChatEvent.ofPayload? record.payload = .ok event)
      (accept : event.accept receivedAt = .ok accepted)
      (passage : Passage (fun q => W (.store q)) (Persistence.persist accepted) s own result s') :
      Piped W record s (result.mapError fun failure => (.storing, failure)) s'

/-- What is asked of the store concerns no letter. -/
theorem letters_ofStore (own : List (Dialogue.Event Store.api Telemetry σ)) :
    letters (own.map ofStore) = [] ∧ refusals (own.map ofStore) = 0 := by
  induction own with
  | nil => exact ⟨rfl, rfl⟩
  | cons e own ih =>
    cases e with
    | told note => exact ih
    | answered q a state =>
      obtain ⟨lettered, refused⟩ :=
        letters_answered (.store q) a state (by simp) (own.map ofStore)
      exact ⟨lettered.trans ih.1, refused.trans ih.2⟩

/-- **The pipeline** concerns no letter. -/
theorem Pipes.quiet {result : Except (Stage × Failure) Outcome}
    (h : Pipes W record s events result s') : letters events = [] ∧ refusals events = 0 := by
  cases h with
  | unread | unaccepted => exact ⟨rfl, rfl⟩
  | @persisted _ _ _ own => exact letters_ofStore own

/-- What comes of it, if only the store has a state. -/
theorem Pipes.piped (alone : StoreOnly W) {result : Except (Stage × Failure) Outcome}
    (h : Pipes W record s events result s') : Piped W record s result s' := by
  cases h with
  | unread read => exact .unread read
  | unaccepted read now accept =>
    obtain rfl := alone _ _ _ _ (by simp) now
    exact .unaccepted read accept
  | persisted read now accept passage =>
    obtain rfl := alone _ _ _ _ (by simp) now
    exact .persisted read accept passage

/-- **A dispatch** goes through the pipeline, and what came of it is settled by the verdict. -/
theorem verdict_of_dispatch (alone : StoreOnly W)
    (h : Passage W (dispatch policy record) s events disposition s') :
    ∃ piped result, piped <+: events ∧ Passage W (pipeline record) s piped result s' ∧
      Piped W record s result s' ∧
      Verdict policy record result disposition (letters events) (refusals events) := by
  obtain ⟨piped, settled, result, mid, rfl, pipeline, concludes⟩ := course_of_dispatch h
  have pipes := pipes_of_pipeline pipeline
  obtain ⟨unlettered, unrefused⟩ := pipes.quiet
  obtain ⟨rfl, verdict⟩ := concludes.verdict alone
  refine ⟨piped, result, List.prefix_append .., pipeline, pipes.piped alone, ?_⟩
  simpa [unlettered, unrefused] using verdict

end MessageIntake.Dispatch
