import MessageIntake.Dispatch
import MessageIntake.Proofs.Passage
import MessageIntake.Proofs.Success
/-!
# The course of a dispatch

What each part of a dispatch tells and is answered, in whatever world, with a case for each way
that it can go. What is to be shown of a dispatch is read off these cases; the dialogues themselves
are opened here only.

Main statement: a dispatch takes its course through the pipeline, then settles what came of it,
and says so in the end (`course_of_dispatch`).
-/

namespace MessageIntake.Dispatch

open Dialogue (Passage passage_done_iff passage_tell_iff passage_ask_iff passage_bind_iff
  passage_sayAll_iff)

variable {σ : Type}

/-- An event of a dispatch. -/
abbrev Event (σ : Type) := Dialogue.Event api Telemetry σ

/-! ### Failures -/

/-- **The attempt** that a delivery of a record counts as. -/
def attemptOf (record : Record) : Nat := Nat.max record.attempt 1

/-- **A failure is final** if no further delivery can help, or none is allowed. -/
def isFinal (policy : RetryPolicy) (record : Record) (failure : Failure) : Bool :=
  match failure.failureClass with
  | .nonRecoverable => true
  | .recoverable => policy.isExhausted (attemptOf record)

/-- A recoverable failure is final just if the budget is used up. -/
theorem isFinal_iff_of_recoverable {policy : RetryPolicy} {record : Record} {failure : Failure}
    (recoverable : failure.failureClass = .recoverable) :
    isFinal policy record failure = true ↔ policy.maxAttempts ≤ attemptOf record := by
  simp [isFinal, recoverable, RetryPolicy.isExhausted]

/-- A failure that is not final leaves some of the budget. -/
theorem attemptOf_lt_of_not_final {policy : RetryPolicy} {record : Record} {failure : Failure}
    (further : isFinal policy record failure = false) :
    attemptOf record < policy.maxAttempts := by
  cases failureClass : failure.failureClass with
  | nonRecoverable => simp [isFinal, failureClass] at further
  | recoverable =>
    rw [← Nat.not_le, ← isFinal_iff_of_recoverable failureClass, further]
    exact Bool.false_ne_true

/-- The reason under which a final failure is dead-lettered. -/
def finalReason (failure : Failure) : Reason :=
  match failure.failureClass with
  | .nonRecoverable => failure.reason
  | .recoverable => .retriesExhausted

/-- The detail with which a final failure is dead-lettered. -/
def finalDetail (failure : Failure) : String :=
  match failure.failureClass with
  | .nonRecoverable => failure.message
  | .recoverable => failure.reason.code ++ ": " ++ failure.message

/-- The log line of a failure. -/
def failureLine (policy : RetryPolicy) (record : Record) (stage : Stage) (failure : Failure) :
    Telemetry :=
  match failure.failureClass with
  | .nonRecoverable => rejectedLine stage failure
  | .recoverable =>
    if policy.isExhausted (attemptOf record) then
      exhaustedLine record (attemptOf record) failure
    else redeliverLine policy (attemptOf record) failure

/-- A failure leads to a dead letter if it is final, and to another delivery if it is not. -/
theorem handleFailure_eq (policy : RetryPolicy) (record : Record) (stage : Stage)
    (failure : Failure) :
    handleFailure policy record stage failure =
      .tell (failureLine policy record stage failure) (
        if isFinal policy record failure then
          deadLetter policy record failure.failureClass (finalReason failure)
            (finalDetail failure) (attemptOf record)
        else retryLater policy (attemptOf record) failure.reason) := by
  unfold handleFailure failureLine isFinal finalReason finalDetail attemptOf
  cases failure.failureClass with
  | nonRecoverable => rfl
  | recoverable =>
    dsimp only
    cases policy.isExhausted (record.attempt.max 1) <;> rfl

/-! ### Settling a record -/

/-- **Leaving a record** for another delivery: a factor is drawn just if there is jitter. -/
inductive Postpones (W : World api σ) (policy : RetryPolicy) (attempt : Nat) (reason : Reason)
    (s : σ) : List (Event σ) → Disposition → σ → Prop where
  | drawn {factor : Binary64} {s' : σ} (jitter : policy.jitter = true)
      (draw : W .factor s factor s') :
      Postpones W policy attempt reason s
        [.told (.meter .retried), .answered .factor factor s']
        (.retry (policy.backoff (Nat.min attempt policy.lastRetryAttempt) factor) attempt reason)
        s'
  | even (jitter : policy.jitter = false) :
      Postpones W policy attempt reason s [.told (.meter .retried)]
        (.retry (policy.backoff (Nat.min attempt policy.lastRetryAttempt) .one) attempt reason) s

/-- **Dead-lettering a record**: the letter is published, or the record is left. -/
inductive Rejects (W : World api σ) (policy : RetryPolicy) (record : Record)
    (failureClass : FailureClass) (reason : Reason) (detail : String) (attempt : Nat) (s : σ) :
    List (Event σ) → Disposition → σ → Prop where
  | published {failedAt : Timestamp} {letter : Letter} {mid s' : σ}
      (now : W .now s failedAt mid)
      (written : letter = .ofRecord record failureClass reason detail attempt failedAt)
      (publish : W (.publish record letter) mid (.ok ()) s') :
      Rejects W policy record failureClass reason detail attempt s
        [.answered .now failedAt mid, .answered (.publish record letter) (.ok ()) s',
          .told (.meter (.deadLettered reason))]
        (.deadLettered reason failureClass attempt) s'
  | refused {failedAt : Timestamp} {letter : Letter} {failure : Failure} {mid next s' : σ}
      {later : List (Event σ)} {disposition : Disposition} (now : W .now s failedAt mid)
      (written : letter = .ofRecord record failureClass reason detail attempt failedAt)
      (publish : W (.publish record letter) mid (.error failure) next)
      (left : Postpones W policy attempt .deadLetterUnavailable next later disposition s') :
      Rejects W policy record failureClass reason detail attempt s
        (.answered .now failedAt mid :: .answered (.publish record letter) (.error failure) next ::
          .told (unpublishedLine reason failure) :: later)
        disposition s'

/-- **Settling what came of the pipeline.** -/
inductive Concludes (W : World api σ) (policy : RetryPolicy) (record : Record) (s : σ) :
    Except (Stage × Failure) Outcome → List (Event σ) → Disposition → σ → Prop where
  | stored (outcome : Outcome) :
      Concludes W policy record s (.ok outcome) ((storedMarks outcome).map .told)
        (.acked outcome) s
  | final {stage : Stage} {failure : Failure} {later : List (Event σ)}
      {disposition : Disposition} {s' : σ} (final : isFinal policy record failure = true)
      (rejects : Rejects W policy record failure.failureClass (finalReason failure)
        (finalDetail failure) (attemptOf record) s later disposition s') :
      Concludes W policy record s (.error (stage, failure))
        (.told (.meter .failed) :: .told (failureLine policy record stage failure) :: later)
        disposition s'
  | further {stage : Stage} {failure : Failure} {later : List (Event σ)}
      {disposition : Disposition} {s' : σ} (further : isFinal policy record failure = false)
      (postpones : Postpones W policy (attemptOf record) failure.reason s later disposition s') :
      Concludes W policy record s (.error (stage, failure))
        (.told (.meter .failed) :: .told (failureLine policy record stage failure) :: later)
        disposition s'

variable {W : World api σ} {policy : RetryPolicy} {record : Record} {s s' : σ}
  {events : List (Event σ)} {disposition : Disposition}

theorem postpones_of_retryLater {attempt : Nat} {reason : Reason}
    (h : Passage W (retryLater policy attempt reason) s events disposition s') :
    Postpones W policy attempt reason s events disposition s' := by
  obtain ⟨later, rfl, marked⟩ := passage_tell_iff.1 h
  obtain ⟨first, second, factor, mid, rfl, drawn, ends⟩ := passage_bind_iff.1 marked
  obtain ⟨rfl, rfl, rfl⟩ := passage_done_iff.1 ends
  rw [List.append_nil]
  cases jitter : policy.jitter with
  | true =>
    rw [drawFactor, if_pos jitter] at drawn
    obtain ⟨answer, next, none, rfl, draw, done⟩ := passage_ask_iff.1 drawn
    obtain ⟨rfl, rfl, rfl⟩ := passage_done_iff.1 done
    exact .drawn jitter draw
  | false =>
    rw [drawFactor, jitter, if_neg Bool.false_ne_true] at drawn
    obtain ⟨rfl, rfl, rfl⟩ := passage_done_iff.1 drawn
    exact .even jitter

theorem rejects_of_deadLetter {failureClass : FailureClass} {reason : Reason} {detail : String}
    {attempt : Nat}
    (h : Passage W (deadLetter policy record failureClass reason detail attempt) s events
      disposition s') :
    Rejects W policy record failureClass reason detail attempt s events disposition s' := by
  obtain ⟨failedAt, mid, later, rfl, now, timed⟩ := passage_ask_iff.1 h
  obtain ⟨published, next, later, rfl, publish, answered⟩ := passage_ask_iff.1 timed
  match published with
  | .ok () =>
    obtain ⟨later, rfl, marked⟩ := passage_tell_iff.1 answered
    obtain ⟨rfl, rfl, rfl⟩ := passage_done_iff.1 marked
    exact .published now rfl publish
  | .error failure =>
    obtain ⟨later, rfl, noted⟩ := passage_tell_iff.1 answered
    exact .refused now rfl publish (postpones_of_retryLater noted)

theorem concludes_of_settle {result : Except (Stage × Failure) Outcome}
    (h : Passage W (settle policy record result) s events disposition s') :
    Concludes W policy record s result events disposition s' := by
  match result with
  | .ok outcome =>
    obtain ⟨first, second, value, mid, rfl, told, ends⟩ := passage_bind_iff.1 h
    obtain ⟨rfl, rfl⟩ := passage_sayAll_iff.1 told
    obtain ⟨rfl, rfl, rfl⟩ := passage_done_iff.1 ends
    rw [List.append_nil]
    exact .stored outcome
  | .error (stage, failure) =>
    rw [settle, handleFailure_eq] at h
    obtain ⟨later, rfl, marked⟩ := passage_tell_iff.1 h
    obtain ⟨later, rfl, rest⟩ := passage_tell_iff.1 marked
    split at rest
    · next final => exact .final final (rejects_of_deadLetter rest)
    · next further =>
      exact .further (Bool.eq_false_iff.2 further) (postpones_of_retryLater rest)

/-! ### The pipeline -/

/-- An event of talking with the store, as one of the dispatch. -/
def ofStore : Dialogue.Event Store.api Telemetry σ → Event σ :=
  .lift Question.store fun _ answer => answer

/-- **Talking with the store** among the other doings of a dispatch. -/
theorem passage_withStore_iff {α : Type} {d : Dialogue Store.api Telemetry α} {value : α} :
    Passage W (withStore d) s events value s' ↔
      ∃ own, events = own.map ofStore ∧ Passage (fun q => W (.store q)) d s own value s' :=
  Dialogue.passage_embed_iff (fun _ _ => rfl) (fun _ _ => rfl)

/-- **Reading, accepting and storing** a record: only an event that was read and accepted comes to
the store. -/
inductive Pipes (W : World api σ) (record : Record) (s : σ) :
    List (Event σ) → Except (Stage × Failure) Outcome → σ → Prop where
  | unread {fault : PayloadFault} (read : ChatEvent.ofPayload? record.payload = .error fault) :
      Pipes W record s [.told (moveLine .received .reading)]
        (.error (.reading, .undecodable fault.message)) s
  | unaccepted {event : ChatEvent} {receivedAt : Timestamp} {failure : Failure} {s' : σ}
      (read : ChatEvent.ofPayload? record.payload = .ok event) (now : W .now s receivedAt s')
      (accept : event.accept receivedAt = .error failure) :
      Pipes W record s
        [.told (moveLine .received .reading), .told (moveLine .reading .accepting),
          .answered .now receivedAt s']
        (.error (.accepting, failure)) s'
  | persisted {event : ChatEvent} {receivedAt : Timestamp} {accepted : AcceptedEvent}
      {own : List (Dialogue.Event Store.api Telemetry σ)} {stored : Except Failure Outcome}
      {mid s' : σ} (read : ChatEvent.ofPayload? record.payload = .ok event)
      (now : W .now s receivedAt mid) (accept : event.accept receivedAt = .ok accepted)
      (passage : Passage (fun q => W (.store q)) (Persistence.persist accepted) mid own stored
        s') :
      Pipes W record s
        (.told (moveLine .received .reading) :: .told (moveLine .reading .accepting) ::
          .answered .now receivedAt mid :: .told (moveLine .accepting .storing) ::
          own.map ofStore)
        (stored.mapError fun failure => (.storing, failure)) s'

theorem pipes_of_pipeline {result : Except (Stage × Failure) Outcome}
    (h : Passage W (pipeline record) s events result s') : Pipes W record s events result s' := by
  obtain ⟨later, rfl, moved⟩ := passage_tell_iff.1 h
  cases read : ChatEvent.ofPayload? record.payload with
  | error fault =>
    rw [read] at moved
    obtain ⟨rfl, rfl, rfl⟩ := passage_done_iff.1 moved
    exact .unread read
  | ok event =>
    rw [read] at moved
    obtain ⟨later, rfl, received⟩ := passage_tell_iff.1 moved
    obtain ⟨receivedAt, mid, later, rfl, now, timed⟩ := passage_ask_iff.1 received
    cases accept : event.accept receivedAt with
    | error failure =>
      simp only [accept] at timed
      obtain ⟨rfl, rfl, rfl⟩ := passage_done_iff.1 timed
      exact .unaccepted read now accept
    | ok accepted =>
      simp only [accept] at timed
      obtain ⟨later, rfl, noted⟩ := passage_tell_iff.1 timed
      obtain ⟨first, second, stored, next, rfl, embedded, ends⟩ := passage_bind_iff.1 noted
      obtain ⟨own, rfl, passage⟩ := passage_withStore_iff.1 embedded
      have same : second = [] ∧ s' = next ∧
          result = stored.mapError fun failure => (.storing, failure) := by
        cases stored with
        | error failure | ok outcome =>
          obtain ⟨rfl, rfl, rfl⟩ := passage_done_iff.1 ends
          exact ⟨rfl, rfl, rfl⟩
      obtain ⟨rfl, rfl, rfl⟩ := same
      rw [List.append_nil]
      exact .persisted read now accept passage

/-! ### A whole dispatch -/

/-- **The course of a dispatch**: through the pipeline, then settling what came of it, and two
notes in the end. -/
theorem course_of_dispatch
    (h : Passage W (dispatch policy record) s events disposition s') :
    ∃ piped settled result mid,
      events =
        piped ++ (settled ++ [.told (.meter .timed), .told (dispatchedLine disposition)]) ∧
      Passage W (pipeline record) s piped result mid ∧
      Concludes W policy record mid result settled disposition s' := by
  obtain ⟨piped, concluded, result, mid, rfl, pipes, concludes⟩ := passage_bind_iff.1 h
  obtain ⟨settled, later, value, next, rfl, settles, ends⟩ := passage_bind_iff.1 concludes
  obtain ⟨later, rfl, timed⟩ := passage_tell_iff.1 ends
  obtain ⟨later, rfl, noted⟩ := passage_tell_iff.1 timed
  obtain ⟨rfl, rfl, rfl⟩ := passage_done_iff.1 noted
  exact ⟨piped, settled, result, mid, rfl, pipes, concludes_of_settle settles⟩

/-! ### Records that can be read -/

/-- What is left of a dispatch once its event was accepted, or not. -/
def onceAccepted (policy : RetryPolicy) (record : Record)
    (result : Except Failure AcceptedEvent) : Talk Disposition :=
  let stored : Talk (Except (Stage × Failure) Outcome) :=
    match result with
    | .error failure => .done (.error (.accepting, failure))
    | .ok accepted =>
      .tell (moveLine .accepting .storing) <|
        (withStore (Persistence.persist accepted)).bind fun
          | .error failure => .done (.error (.storing, failure))
          | .ok outcome => .done (.ok outcome)
  stored.bind fun result =>
    (settle policy record result).bind fun disposition =>
      .tell (.meter .timed) <| .tell (dispatchedLine disposition) (.done disposition)

/-- **A dispatch of a record that can be read.** -/
theorem dispatch_of_read {record : Record} {event : ChatEvent} (policy : RetryPolicy)
    (read : ChatEvent.ofPayload? record.payload = .ok event) :
    dispatch policy record =
      .tell (moveLine .received .reading) (.tell (moveLine .reading .accepting)
        (.ask .now fun receivedAt => onceAccepted policy record (event.accept receivedAt))) := by
  rw [dispatch, pipeline, read]
  rfl

/-- **A new event is stored**: where the store has no message of it and takes it, there is a way
through the dispatch, and the record is to be acknowledged. -/
theorem exists_passage_storing {W : World api σ} {record : Record} {event : ChatEvent}
    {receivedAt : Timestamp} {accepted : AcceptedEvent} {row : Message} {s s₁ s₂ s' : σ}
    (policy : RetryPolicy) (read : ChatEvent.ofPayload? record.payload = .ok event)
    (accepts : event.accept receivedAt = .ok accepted) (anonymous : accepted.clientMsgId = none)
    (now : W .now s receivedAt s₁)
    (missing : W (.store (.findByEventId accepted.eventId)) s₁ (.ok none) s₂)
    (takes : W (.store (.insert accepted)) s₂ (.ok row) s') :
    ∃ events, Passage W (dispatch policy record) s events (.acked ⟨row, false⟩) s' := by
  have stores : ∃ events, Passage W (onceAccepted policy record (.ok accepted)) s₁ events
      (.acked ⟨row, false⟩) s' := by
    cases accepted
    cases anonymous
    exact ⟨_, .tell <| .ask missing <| .ask takes <| .tell <| .tell <| .tell <| .tell .done⟩
  obtain ⟨events, stores⟩ := stores
  rw [dispatch_of_read policy read]
  exact ⟨_, .tell <| .tell <| .ask now <| accepts ▸ stores⟩

/-! ### A record for runs on fixed inputs -/

/-- A record with a plain event. -/
def greeting (offset : Int) : Record :=
  ⟨"chat", 0, offset, none, some (Utf8.encode
    ("\x7b\"eventId\":\"e1\",\"conversationId\":\"c1\"," ++
      "\"senderId\":\"alice\",\"content\":\"hello\"\x7d")), 1⟩

/-- The event in it. -/
def greetingEvent : ChatEvent :=
  ⟨some "e1", none, some "c1", some "alice", none, none, none, some "hello", none, none⟩

/-- The event as it is accepted at the epoch. -/
def greetingAccepted : AcceptedEvent := ⟨"e1", none, "c1", "alice", none, "hello", none, .epoch⟩

theorem read_greeting (offset : Int) :
    ChatEvent.ofPayload? (greeting offset).payload = .ok greetingEvent := by
  have same : (greeting offset).payload = (greeting 0).payload := rfl
  rw [same]
  exact toOption_eq_some_iff.1 (by decide +kernel)

theorem accept_greeting : greetingEvent.accept .epoch = .ok greetingAccepted := rfl

end MessageIntake.Dispatch
