import MessageIntake.Letter
import MessageIntake.Persistence
import MessageIntake.Retry
/-!
# Dispatching a record

One record is read, accepted and stored, and from what comes of that follows how the
transport is to settle it: acknowledge it, or leave it for another delivery after a wait. A
record is acknowledged only when its message is in the store or its letter was published.
What is wrong with the record itself is dead-lettered at once, any other failure when the
retry policy's budget is used up.

Main entry: `dispatch`.
-/

namespace MessageIntake

/-- **Where a record is** on its way. -/
inductive Stage where
  | received
  | reading
  | accepting
  | storing
  | acked
  | deadLettered
  | leftForRetry
  deriving DecidableEq, Repr

namespace Stage

/-- The code of a stage. -/
def code : Stage → String
  | received => "RECEIVED"
  | reading => "DESERIALIZING"
  | accepting => "VALIDATING"
  | storing => "PERSISTING"
  | acked => "ACKED_OK"
  | deadLettered => "ACKED_DEADLETTERED"
  | leftForRetry => "UNACKED_RETRY"

/-- All stages in their order. -/
def all : List Stage :=
  [received, reading, accepting, storing, acked, deadLettered, leftForRetry]

end Stage

/-- **How the transport is to settle a record.** -/
inductive Disposition where
  /-- The message is stored; acknowledge. -/
  | acked (outcome : Outcome)
  /-- The letter is published; acknowledge. -/
  | deadLettered (reason : Reason) (failureClass : FailureClass) (attempts : Nat)
  /-- Leave the record unacknowledged and deliver it again after `delay`. -/
  | retry (delay : Span) (attempt : Nat) (reason : Reason)
  deriving DecidableEq, Repr

namespace Disposition

/-- The stage that a settled record has come to. -/
def stage : Disposition → Stage
  | acked _ => .acked
  | deadLettered .. => .deadLettered
  | retry .. => .leftForRetry

/-- The record is to be acknowledged. -/
def shouldAck : Disposition → Bool
  | acked _ | deadLettered .. => true
  | retry .. => false

theorem shouldAck_iff (d : Disposition) : d.shouldAck = true ↔ d.stage ≠ .leftForRetry := by
  cases d <;> simp [shouldAck, stage]

end Disposition

namespace Dispatch

/-! ### The surroundings of a dispatch -/

/-- **What a dispatch asks for.** -/
inductive Question where
  | store (question : Store.Question)
  /-- Publish the letter of a record. -/
  | publish (record : Record) (letter : Letter)
  /-- The time. -/
  | now
  /-- A random factor for a wait. -/
  | factor

/-- The interface of a dispatch. -/
@[reducible] def api : Interface where
  Question := Question
  Answer
    | .store question => Store.api.Answer question
    | .publish .. => Except Failure Unit
    | .now => Timestamp
    | .factor => Binary64

/-- Dialogues of a dispatch. -/
abbrev Talk (α : Type) := Dialogue api Telemetry α

/-- Talking with the store. -/
def withStore {α : Type} (d : Dialogue Store.api Telemetry α) : Talk α :=
  d.embed Question.store fun _ answer => answer

/-! ### Telemetry -/

/-- The log line of a step from one stage to the next. -/
def moveLine (here next : Stage) : Telemetry :=
  .line .trace "Record state" [("from", here.code), ("to", next.code)]

/-- The log line of a record that is dead-lettered at once. -/
def rejectedLine (stage : Stage) (failure : Failure) : Telemetry :=
  .line .warn "Non-recoverable failure, dead-lettering record"
    [("stage", stage.code), ("reason", failure.reason.code), ("error", failure.message)]

/-- The log line of a record whose budget is used up. -/
def exhaustedLine (record : Record) (attempt : Nat) (failure : Failure) : Telemetry :=
  .line .error "Retries exhausted, dead-lettering record"
    [("attempts", Nat.repr attempt), ("partition", toString record.partition),
      ("offset", toString record.offset), ("reason", failure.reason.code),
      ("error", failure.message)]

/-- The log line of a record that is left for another delivery. -/
def redeliverLine (policy : RetryPolicy) (attempt : Nat) (failure : Failure) : Telemetry :=
  .line .warn "Recoverable failure, record will be redelivered"
    [("attempt", Nat.repr attempt), ("max_attempts", Nat.repr policy.maxAttempts),
      ("reason", failure.reason.code), ("error", failure.message)]

/-- The log line of a letter that could not be published. -/
def unpublishedLine (reason : Reason) (failure : Failure) : Telemetry :=
  .line .error "Dead-letter publish failed, leaving record unacknowledged"
    [("reason", reason.code), ("error", failure.message)]

/-- The log line of a dispatch that is over. -/
def dispatchedLine (disposition : Disposition) : Telemetry :=
  .line .debug "Record dispatched" [("state", disposition.stage.code)]

/-! ### From the record to the store -/

/-- **Reading, accepting and storing** a record. A failure comes with the stage in which it
arose. -/
def pipeline (record : Record) : Talk (Except (Stage × Failure) Outcome) :=
  .tell (moveLine .received .reading) <|
    match ChatEvent.ofPayload? record.payload with
    | .error fault => .done (.error (.reading, .undecodable fault.message))
    | .ok event =>
      .tell (moveLine .reading .accepting) <|
        .ask .now fun receivedAt =>
          match event.accept receivedAt with
          | .error failure => .done (.error (.accepting, failure))
          | .ok accepted =>
            .tell (moveLine .accepting .storing) <|
              (withStore (Persistence.persist accepted)).bind fun
                | .error failure => .done (.error (.storing, failure))
                | .ok outcome => .done (.ok outcome)

/-! ### After a failure -/

/-- The random factor of a wait; without jitter none is drawn. -/
def drawFactor (policy : RetryPolicy) : Talk Binary64 :=
  if policy.jitter then .ask .factor .done else .done .one

/-- **Leaving a record for another delivery.** Past the budget the wait is that of the last
attempt within it. -/
def retryLater (policy : RetryPolicy) (attempt : Nat) (reason : Reason) : Talk Disposition :=
  .tell (.meter .retried) <|
    (drawFactor policy).bind fun factor =>
      .done (.retry (policy.backoff (Nat.min attempt policy.lastRetryAttempt) factor) attempt
        reason)

/-- **Dead-lettering a record.** If the letter cannot be published the record is left for
another delivery. -/
def deadLetter (policy : RetryPolicy) (record : Record) (failureClass : FailureClass)
    (reason : Reason) (detail : String) (attempt : Nat) : Talk Disposition :=
  .ask .now fun failedAt =>
    let letter := Letter.ofRecord record failureClass reason detail attempt failedAt
    .ask (.publish record letter) fun
      | .ok () =>
        .tell (.meter (.deadLettered reason)) <|
          .done (.deadLettered reason failureClass attempt)
      | .error failure =>
        .tell (unpublishedLine reason failure) <|
          retryLater policy attempt .deadLetterUnavailable

/-- **What follows from a failure.** -/
def handleFailure (policy : RetryPolicy) (record : Record) (stage : Stage)
    (failure : Failure) : Talk Disposition :=
  let attempt := Nat.max record.attempt 1
  match failure.failureClass with
  | .nonRecoverable =>
    .tell (rejectedLine stage failure) <|
      deadLetter policy record .nonRecoverable failure.reason failure.message attempt
  | .recoverable =>
    if policy.isExhausted attempt then
      .tell (exhaustedLine record attempt failure) <|
        deadLetter policy record .recoverable .retriesExhausted
          (failure.reason.code ++ ": " ++ failure.message) attempt
    else
      .tell (redeliverLine policy attempt failure) <|
        retryLater policy attempt failure.reason

/-- The marks of a stored record. -/
def storedMarks (outcome : Outcome) : List Telemetry :=
  .meter .processed :: if outcome.duplicate then [.meter .duplicate] else []

/-- Settling what came of the pipeline. -/
def settle (policy : RetryPolicy) (record : Record) :
    Except (Stage × Failure) Outcome → Talk Disposition
  | .ok outcome => (Dialogue.sayAll (storedMarks outcome)).bind fun _ => .done (.acked outcome)
  | .error (stage, failure) =>
    .tell (.meter .failed) (handleFailure policy record stage failure)

/-- **Dispatching a record** under a retry policy. -/
def dispatch (policy : RetryPolicy) (record : Record) : Talk Disposition :=
  (pipeline record).bind fun result =>
    (settle policy record result).bind fun disposition =>
      .tell (.meter .timed) <|
        .tell (dispatchedLine disposition) (.done disposition)

end Dispatch

end MessageIntake
