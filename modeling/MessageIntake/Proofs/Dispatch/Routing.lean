import MessageIntake.Datastore.Fault
import MessageIntake.Proofs.Dispatch.Redelivery
import MessageIntake.Proofs.Dispatch.Verdict
import MessageIntake.Proofs.Success
/-!
# Where failures are routed

Which failures no other delivery can help, and what a dispatch makes of a failure in whatever world:
whether a letter is offered for publishing and which one, and whether and with what the record is
left for another delivery.

Main statement: what is wrong with the record itself, and what the datastore refuses by its code, is
not recoverable, and nothing else; just such a failure, and one that has used up its budget, is
offered as a letter, once; and the record is left just if nothing was published
(`failures_are_routed`). It is left as one whose letter was refused if its letter was, and besides
if the store itself fails in those words (`left_for_letter_without_offer`).
-/

namespace MessageIntake

/-! ### Which failures are not recoverable -/

/-- **What no other delivery can help**: an undecodable payload, an invalid field, and what the
datastore refuses. -/
theorem Failure.nonRecoverable_iff {failure : Failure} :
    failure.failureClass = .nonRecoverable ↔
      (∃ detail, failure = .undecodable detail) ∨
      (∃ field detail missing, failure = .invalidField field detail missing) ∨
      ∃ detail, failure = .datastoreRejected detail := by
  cases failure <;> simp [failureClass]

namespace Datastore

/-- **A code refuses the row** if it is of class `22` or `23`, a lost race apart. -/
def Refuses (code : String) : Prop :=
  (['2', '2'] <+: code.toList ∨ ['2', '3'] <+: code.toList) ∧ code ≠ "23505"

/-- The class of a code begins it. -/
theorem codeClass_eq_iff {code : String} {a b : Char} :
    codeClass code = [a, b] ↔ [a, b] <+: code.toList := by
  rw [codeClass, List.prefix_iff_eq_take, eq_comm]
  rfl

/-- **A statement is rejected** just if its code refuses the row: no code that passes is of these
classes. -/
theorem Verdict.ofCode_eq_rejected_iff {code : String} :
    Verdict.ofCode code = .rejected ↔ Refuses code := by
  have passing : ∀ code ∈ ["40001", "40P01", "55P03", "57014"],
      ¬(codeClass code = ['2', '2'] ∨ codeClass code = ['2', '3']) := by decide
  rw [Refuses, ← codeClass_eq_iff, ← codeClass_eq_iff]
  unfold Verdict.ofCode
  split
  · next race => simp [beq_iff_eq.1 race]
  · next other =>
    have other : code ≠ "23505" := fun same => other (beq_iff_eq.2 same)
    split
    · next listed =>
      have := passing code (List.contains_iff_mem.1 listed)
      simp [this]
    · split
      · next scarce =>
        simp only [Bool.or_eq_true, beq_iff_eq] at scarce
        rcases scarce with scarce | scarce <;> simp [scarce]
      · split
        · next refused => simpa [other] using refused
        · next unknown => simpa [other] using unknown

/-- **A fault of the datastore is not recoverable** just if the server reports a code that refuses
the row. -/
theorem Fault.nonRecoverable_iff {fault : Fault} :
    fault.failure.failureClass = .nonRecoverable ↔
      ∃ code constraint detail, fault = .server (some code) constraint detail ∧ Refuses code := by
  cases fault with
  | server code constraint detail =>
    have rejected : (Fault.server code constraint detail).failure.failureClass = .nonRecoverable ↔
        Verdict.ofCode (code.getD "") = .rejected := by
      unfold failure
      dsimp only
      cases Verdict.ofCode (code.getD "") <;> simp [Failure.failureClass]
    rw [rejected, Verdict.ofCode_eq_rejected_iff]
    cases code with
    | none => simp [Refuses]
    | some code => simp
  | _ => simp [failure, Failure.failureClass]

end Datastore

/-- **An event that is not accepted** has an invalid field. -/
theorem ChatEvent.exists_invalidField_of_accept {event : ChatEvent} {receivedAt : Timestamp}
    {failure : Failure} (rejected : event.accept receivedAt = .error failure) :
    ∃ field detail missing, failure = .invalidField field detail missing := by
  have identified : ∀ {field : String} {value : Option String} {failure : Failure},
      identifier field value = .error failure →
        ∃ field detail missing, failure = .invalidField field detail missing := by
    intro field value failure h
    unfold identifier at h
    split at h <;> cases h
    exact ⟨_, _, _, rfl⟩
  have long : ∀ {field : String} {limit : Nat} {value : Option String},
      some failure = tooLong? field limit value →
        ∃ field detail missing, failure = .invalidField field detail missing := by
    intro field limit value h
    unfold tooLong? at h
    split at h
    · split at h <;> cases h
      exact ⟨_, _, _, rfl⟩
    · cases h
  have absent : ∀ {field : String} {value : Option String}, some failure = absent? field value →
      ∃ field detail missing, failure = .invalidField field detail missing := by
    intro field value h
    unfold absent? at h
    split at h <;> cases h
    exact ⟨_, _, _, rfl⟩
  have violated : failure ∈ event.mergeSpellings.violations →
      ∃ field detail missing, failure = .invalidField field detail missing := by
    simp only [violations, List.mem_filterMap, id, exists_eq_right, List.mem_cons,
      List.not_mem_nil, or_false]
    rintro (h | h | h | h | h | h | h | h | h | h)
    all_goals first
      | exact long h
      | exact absent h
  unfold accept at rejected
  dsimp only at rejected
  split at rejected
  · next first others found =>
    cases rejected
    exact violated (found ▸ List.mem_cons_self)
  · simp only [bind_eq_error_iff] at rejected
    rcases rejected with h | ⟨_, -, h | ⟨_, -, h | ⟨_, -, h⟩⟩⟩
    · exact identified h
    · exact identified h
    · exact identified h
    · split at h <;> cases h
      exact ⟨_, _, _, rfl⟩

namespace Dispatch

open Dialogue (Passage)

variable {σ : Type}

/-! ### Letters that are offered -/

/-- **A letter that is offered** for publishing, and what came of that. -/
structure Offer where
  record : Record
  letter : Letter
  answer : Except Failure Unit

/-- The letter was refused. -/
def Offer.Refused (o : Offer) : Prop := ∃ failure, o.answer = .error failure

/-- The letter that is offered in an event. -/
def offer? : Event σ → Option Offer
  | .answered (.publish record letter) answer _ => some ⟨record, letter, answer⟩
  | _ => none

/-- **The letters that are offered** on the way, the first one first. -/
def offers (events : List (Event σ)) : List Offer := events.filterMap offer?

@[simp] theorem offers_nil : offers ([] : List (Event σ)) = [] := rfl

@[simp] theorem offers_told (note : Telemetry) (events : List (Event σ)) :
    offers (.told note :: events) = offers events := rfl

@[simp] theorem offers_now (instant : Timestamp) (state : σ) (events : List (Event σ)) :
    offers (.answered .now instant state :: events) = offers events := rfl

@[simp] theorem offers_factor (factor : Binary64) (state : σ) (events : List (Event σ)) :
    offers (.answered .factor factor state :: events) = offers events := rfl

@[simp] theorem offers_publish (record : Record) (letter : Letter) (answer : Except Failure Unit)
    (state : σ) (events : List (Event σ)) :
    offers (.answered (.publish record letter) answer state :: events) =
      ⟨record, letter, answer⟩ :: offers events := rfl

@[simp] theorem offers_append (events later : List (Event σ)) :
    offers (events ++ later) = offers events ++ offers later := List.filterMap_append

/-- Notes offer nothing. -/
theorem offers_notes (notes : List Telemetry) :
    offers (notes.map .told : List (Event σ)) = [] := by
  induction notes with
  | nil => rfl
  | cons note notes ih => exact ih

/-- Nothing that is asked of the store offers a letter. -/
theorem offers_ofStore (own : List (Dialogue.Event Store.api Telemetry σ)) :
    offers (own.map ofStore) = [] := by
  induction own with
  | nil => rfl
  | cons e own ih =>
    cases e with
    | told note | answered question answer state => exact ih

variable {W : World api σ} {policy : RetryPolicy} {record : Record} {s s' : σ}
  {events later : List (Event σ)} {disposition : Disposition}
  {result : Except (Stage × Failure) Outcome}

/-! ### Failures of the pipeline -/

/-- **Where a failure arose** tells what it is of: reading makes it undecodable, accepting makes it
one of a field, and else it is the store's. -/
def Arises (stage : Stage) (failure : Failure) : Prop :=
  (stage = .reading ∧ ∃ detail, failure = .undecodable detail) ∨
    (stage = .accepting ∧ ∃ field detail missing, failure = .invalidField field detail missing) ∨
    stage = .storing

theorem Pipes.arises {stage : Stage} {failure : Failure}
    (h : Pipes W record s events (.error (stage, failure)) s') : Arises stage failure := by
  generalize made : Except.error (stage, failure) = result at h
  cases h with
  | unread =>
    cases made
    exact .inl ⟨rfl, _, rfl⟩
  | unaccepted _ _ accept =>
    cases made
    exact .inr (.inl ⟨rfl, ChatEvent.exists_invalidField_of_accept accept⟩)
  | @persisted _ _ _ _ stored =>
    cases stored <;> cases made
    exact .inr (.inr rfl)

/-- The pipeline offers no letter. -/
theorem Pipes.offers (h : Pipes W record s events result s') : offers events = [] := by
  cases h with
  | unread | unaccepted => rfl
  | @persisted _ _ _ own => exact offers_ofStore own

/-! ### Routing -/

@[simp] theorem letterOf_failureReason (record : Record) (failure : Failure)
    (failedAt : Timestamp) :
    (letterOf record failure failedAt).failureReason = finalReason failure := rfl

@[simp] theorem letterOf_failureClass (record : Record) (failure : Failure)
    (failedAt : Timestamp) :
    (letterOf record failure failedAt).failureClass = failure.failureClass := rfl

@[simp] theorem letterOf_attemptCount (record : Record) (failure : Failure)
    (failedAt : Timestamp) :
    (letterOf record failure failedAt).attemptCount = attemptOf record := rfl

/-- **How a record is routed**, by what came of the pipeline: which letters are offered on the way,
and what the record is settled with. -/
structure Routed (policy : RetryPolicy) (record : Record)
    (result : Except (Stage × Failure) Outcome) (disposition : Disposition)
    (events : List (Event σ)) : Prop where
  /-- What was stored is acknowledged. -/
  acked_iff : ∀ outcome, disposition = .acked outcome ↔ result = .ok outcome
  /-- A failure is one of the stage in which it arose. -/
  arises : ∀ stage failure, result = .error (stage, failure) → Arises stage failure
  /-- No more than one letter is offered. -/
  once : (offers events).length ≤ 1
  /-- A letter is offered just if a failure is not recoverable, or has used up the budget. -/
  offered_iff : offers events ≠ [] ↔ ∃ stage failure, result = .error (stage, failure) ∧
    (failure.failureClass = .nonRecoverable ∨ policy.maxAttempts ≤ attemptOf record)
  /-- It is the one of the record and of its failure. -/
  letter : ∀ o ∈ offers events, o.record = record ∧
    ∃ stage failure failedAt state, result = .error (stage, failure) ∧
      .answered .now failedAt state ∈ events ∧ o.letter = letterOf record failure failedAt
  /-- The record is settled as its letter says, just if that is published. -/
  lettered_iff : ∀ reason failureClass attempts,
    disposition = .deadLettered reason failureClass attempts ↔
      ∃ o ∈ offers events, o.answer = .ok () ∧ o.letter.failureReason = reason ∧
        o.letter.failureClass = failureClass ∧ o.letter.attemptCount = attempts
  /-- The record is left just if something failed and nothing was published. -/
  left_iff : disposition.shouldAck = false ↔
    (∃ fault, result = .error fault) ∧ ∀ o ∈ offers events, o.Refused
  /-- It is left for the failure's own reason, or for the letter that was refused. -/
  reason : ∀ delay attempt reason, disposition = .retry delay attempt reason →
    ∃ stage failure, result = .error (stage, failure) ∧
      reason = if offers events = [] then failure.reason else .deadLetterUnavailable
  /-- The wait is that of the attempt, at most the last one within the budget. -/
  wait : ∀ delay attempt reason, disposition = .retry delay attempt reason →
    attempt = attemptOf record ∧ ∃ factor, delay = delayOf policy record factor ∧
      (policy.jitter = true → ∃ state, .answered .factor factor state ∈ events)

/-- What goes before and after it changes nothing, if no letter is offered there. -/
theorem Routed.extend (h : Routed policy record result disposition events)
    {whole : List (Event σ)} (kept : events ⊆ whole) (same : offers whole = offers events) :
    Routed policy record result disposition whole where
  acked_iff := h.acked_iff
  arises := h.arises
  once := same ▸ h.once
  offered_iff := same ▸ h.offered_iff
  letter := by
    rw [same]
    intro o mem
    obtain ⟨of, stage, failure, failedAt, state, failed, told, written⟩ := h.letter o mem
    exact ⟨of, stage, failure, failedAt, state, failed, kept told, written⟩
  lettered_iff := same ▸ h.lettered_iff
  left_iff := same ▸ h.left_iff
  reason := same ▸ h.reason
  wait := fun delay attempt reason left => by
    obtain ⟨same, factor, waits, drawn⟩ := h.wait delay attempt reason left
    exact ⟨same, factor, waits, fun jitter => (drawn jitter).imp fun _ told => kept told⟩

/-- A failure is final just if no other delivery can help it, or none is allowed. -/
theorem isFinal_iff {failure : Failure} :
    isFinal policy record failure = true ↔
      failure.failureClass = .nonRecoverable ∨ policy.maxAttempts ≤ attemptOf record := by
  cases failureClass : failure.failureClass with
  | nonRecoverable => simp [isFinal, failureClass]
  | recoverable => simp [isFinal_iff_of_recoverable failureClass]

/-- Leaving a record offers no letter, and waits as its policy says. -/
theorem Postpones.waits {reason : Reason}
    (h : Postpones W policy (attemptOf record) reason s events disposition s') :
    offers events = [] ∧ ∃ factor,
      disposition = .retry (delayOf policy record factor) (attemptOf record) reason ∧
      (policy.jitter = true → ∃ state, .answered .factor factor state ∈ events) := by
  cases h with
  | drawn jitter draw => exact ⟨rfl, _, rfl, fun _ => ⟨s', by simp⟩⟩
  | even jitter => exact ⟨rfl, _, rfl, fun drawn => by simp [jitter] at drawn⟩

/-- **Settling what came of the pipeline** routes the record. -/
theorem Concludes.routed (h : Concludes W policy record s result events disposition s')
    (arises : ∀ stage failure, result = .error (stage, failure) → Arises stage failure) :
    Routed policy record result disposition events := by
  cases h with
  | stored outcome =>
    have none : offers ((storedMarks outcome).map .told : List (Event σ)) = [] := offers_notes _
    constructor <;> simp [none, Disposition.shouldAck]
  | @final stage failure later disposition s' final rejects =>
    have budget := isFinal_iff.1 final
    cases rejects with
    | @published failedAt letter mid _ now written publish =>
      obtain rfl : letter = letterOf record failure failedAt := written
      exact {
        acked_iff := by simp
        arises
        once := by simp
        offered_iff := iff_of_true (by simp) ⟨stage, failure, rfl, budget⟩
        letter := by
          intro o mem
          obtain rfl : o = ⟨record, letterOf record failure failedAt, .ok ()⟩ := by simpa using mem
          exact ⟨rfl, stage, failure, failedAt, mid, rfl, by simp, rfl⟩
        lettered_iff := by simp
        left_iff := by simp [Disposition.shouldAck, Offer.Refused]
        reason := by rintro _ _ _ ⟨⟩
        wait := by rintro _ _ _ ⟨⟩ }
    | @refused failedAt letter refusal mid next _ later _ now written publish left =>
      obtain rfl : letter = letterOf record failure failedAt := written
      obtain ⟨none, factor, rfl, drawn⟩ := left.waits
      exact {
        acked_iff := by simp
        arises
        once := by simp [none]
        offered_iff := iff_of_true (by simp) ⟨stage, failure, rfl, budget⟩
        letter := by
          intro o mem
          obtain rfl : o = ⟨record, letterOf record failure failedAt, .error refusal⟩ := by
            simpa [none] using mem
          exact ⟨rfl, stage, failure, failedAt, mid, rfl, by simp, rfl⟩
        lettered_iff := by simp [none]
        left_iff := by simp [Disposition.shouldAck, Offer.Refused, none]
        reason := by
          rintro _ _ _ ⟨⟩
          exact ⟨stage, failure, rfl, by simp⟩
        wait := by
          rintro _ _ _ ⟨⟩
          exact ⟨rfl, factor, rfl, fun jitter => (drawn jitter).imp fun _ told => by simp [told]⟩ }
  | @further stage failure later disposition s' further postpones =>
    have budget : ¬(failure.failureClass = .nonRecoverable ∨
        policy.maxAttempts ≤ attemptOf record) :=
      fun spent => Bool.false_ne_true (further.symm.trans (isFinal_iff.2 spent))
    obtain ⟨none, factor, rfl, drawn⟩ := postpones.waits
    exact {
      acked_iff := by simp
      arises
      once := by simp [none]
      offered_iff := iff_of_false (by simp [none]) (by
        rintro ⟨_, _, ⟨⟩, spent⟩
        exact budget spent)
      letter := by simp [none]
      lettered_iff := by simp [none]
      left_iff := by simp [Disposition.shouldAck, none]
      reason := by
        rintro _ _ _ ⟨⟩
        exact ⟨stage, failure, rfl, by simp [none]⟩
      wait := by
        rintro _ _ _ ⟨⟩
        exact ⟨rfl, factor, rfl, fun jitter => (drawn jitter).imp fun _ told => by simp [told]⟩ }

/-- **A failure is never lost.** In whatever world, however its store, its outlet of letters, its
clock and its chance answer: failures and faults are classed as is said, a dispatch comes to an end,
and wherever it ends, the record has been routed by what came of the pipeline. -/
theorem failures_are_routed {W : World api σ} (total : ∀ q s, ∃ a s', W q s a s')
    (policy : RetryPolicy) (record : Record) (s : σ) :
    (∀ failure : Failure, failure.failureClass = .nonRecoverable ↔
      (∃ detail, failure = .undecodable detail) ∨
      (∃ field detail missing, failure = .invalidField field detail missing) ∨
      ∃ detail, failure = .datastoreRejected detail) ∧
    (∀ fault : Datastore.Fault, fault.failure.failureClass = .nonRecoverable ↔
      ∃ code constraint detail,
        fault = .server (some code) constraint detail ∧ Datastore.Refuses code) ∧
    (∃ events disposition s', Passage W (dispatch policy record) s events disposition s') ∧
    ∀ events disposition s', Passage W (dispatch policy record) s events disposition s' →
      ∃ piped result mid, piped <+: events ∧ Passage W (pipeline record) s piped result mid ∧
        Routed policy record result disposition events := by
  refine ⟨fun _ => Failure.nonRecoverable_iff, fun _ => Datastore.Fault.nonRecoverable_iff,
    Dialogue.exists_passage total _ _, fun events disposition s' h => ?_⟩
  obtain ⟨piped, settled, result, mid, rfl, pipeline, concludes⟩ := course_of_dispatch h
  have pipes := pipes_of_pipeline pipeline
  have routed := concludes.routed fun stage failure failed => (failed ▸ pipes).arises
  refine ⟨piped, result, mid, List.prefix_append .., pipeline, routed.extend ?_ ?_⟩
  · exact fun e mem => List.mem_append_right _ (List.mem_append_left _ mem)
  · simp [pipes.offers]

/-- **A tombstone whose letter is refused**, delivered more often than the budget allows: it is left
once more, for as long as after the last attempt within the budget. -/
theorem tombstone_left_past_budget :
    ∃ (W : World api Unit) (record : Record) (events : List (Event Unit)),
      let left := Disposition.retry (.ofMillis 125000) 7 .deadLetterUnavailable
      (∀ q s, ∃ a s', W q s a s') ∧ Passage W (dispatch .default record) () events left () ∧
        Routed .default record (.error (.reading, .undecodable "missing payload")) left events := by
  let record : Record := ⟨"chat", 0, 41, none, none, 7⟩
  let refused : Except Failure Unit := .error (.letterUnpublished "broker down")
  let W : World api Unit := fun q _ a _ =>
    match q, a with
    | .publish .., a => a = refused
    | .store _, _ | .now, _ | .factor, _ => True
  have total : ∀ q s, ∃ a s', W q s a s' := by
    rintro (q | _ | _ | _) s
    · exact ⟨.error (.unexpected "down"), (), trivial⟩
    · exact ⟨refused, (), rfl⟩
    · exact ⟨.epoch, (), trivial⟩
    · exact ⟨.one, (), trivial⟩
  have longest : RetryPolicy.default.backoff 4 .one = .ofMillis 125000 := by decide +kernel
  have now : W .now () Timestamp.epoch () := trivial
  have publish : ∀ letter, W (.publish record letter) () refused () := fun _ => rfl
  have passage : ∃ events, Passage W (dispatch .default record) () events
      (.retry (.ofMillis 125000) 7 .deadLetterUnavailable) () := by
    clear_value W
    rw [← longest]
    exact ⟨_, .tell <| .tell <| .tell <| .ask now <| .ask (publish _) <| .tell <| .tell <| .tell <|
      .tell .done⟩
  obtain ⟨events, passage⟩ := passage
  obtain ⟨piped, result, mid, -, pipeline, routed⟩ :=
    (failures_are_routed total .default record ()).2.2.2 _ _ _ passage
  obtain ⟨later, -, read⟩ := Dialogue.passage_tell_iff.1 pipeline
  obtain ⟨-, rfl, -⟩ := Dialogue.passage_done_iff.1 read
  exact ⟨W, record, events, total, passage, routed⟩

/-- **A record may be left for a letter that was never offered**: the store itself fails in those
words. -/
theorem left_for_letter_without_offer :
    ¬∀ (W : World api Unit) (policy : RetryPolicy) (record : Record) (events : List (Event Unit))
      (delay : Span) (attempt : Nat) (reason : Reason),
      Passage W (dispatch policy record) () events (.retry delay attempt reason) () →
        (reason = .deadLetterUnavailable ↔ ∃ o ∈ offers events, o.Refused) := by
  intro claimed
  let W : World api Unit := fun _ _ _ _ => True
  let failed : Except Failure (Option Message) := .error (.letterUnpublished "down")
  have now : W .now () Timestamp.epoch () := trivial
  have look : W (.store (.findByEventId "e1")) () failed () := trivial
  have passage : ∃ events delay, offers events = [] ∧
      Passage W (dispatch .default (greeting 0)) () events
        (.retry delay 1 .deadLetterUnavailable) () := by
    clear_value W
    rw [dispatch_of_read .default (read_greeting 0)]
    refine ⟨_, _, ?_, .tell <| .tell <| .ask now <| .tell <| .ask look <| .tell <| .tell <|
      .tell <| .tell <| .tell .done⟩
    rfl
  obtain ⟨events, delay, none, passage⟩ := passage
  obtain ⟨o, mem, -⟩ := (claimed _ _ _ _ _ _ _ passage).1 rfl
  rw [none] at mem
  cases mem

end Dispatch

end MessageIntake
