/-!
# Failures and their classes

A record that cannot be stored has failed for one of seven causes. The cause decides the
*class*, which says whether another delivery can help, and the *reason*, the code under
which the failure is counted, logged and dead-lettered.
-/

namespace MessageIntake

/-- **Failure classes**: a recoverable failure is retried, any other is dead-lettered at
once. -/
inductive FailureClass where
  | recoverable
  | nonRecoverable
  deriving DecidableEq, Repr

namespace FailureClass

/-- The code of a class. -/
def code : FailureClass → String
  | recoverable => "RECOVERABLE"
  | nonRecoverable => "NON_RECOVERABLE"

/-- All classes in the order of their declaration. -/
def all : List FailureClass := [recoverable, nonRecoverable]

end FailureClass

/-- **Reasons** under which failures are counted and dead-lettered. -/
inductive Reason where
  | malformedPayload
  | missingField
  | schemaViolation
  | datastoreUnavailable
  | duplicateRace
  | unknown
  | retriesExhausted
  | deadLetterUnavailable
  deriving DecidableEq, Repr

namespace Reason

/-- The code of a reason. -/
def code : Reason → String
  | malformedPayload => "malformed_payload"
  | missingField => "missing_field"
  | schemaViolation => "schema_violation"
  | datastoreUnavailable => "datastore_unavailable"
  | duplicateRace => "duplicate_race"
  | unknown => "unknown"
  | retriesExhausted => "retries_exhausted"
  | deadLetterUnavailable => "dead_letter_unavailable"

/-- All reasons in the order of their declaration. -/
def all : List Reason :=
  [malformedPayload, missingField, schemaViolation, datastoreUnavailable, duplicateRace,
    unknown, retriesExhausted, deadLetterUnavailable]

theorem mem_all (r : Reason) : r ∈ all := by
  cases r <;> decide

end Reason

/-- **Why a record failed.** -/
inductive Failure where
  /-- The payload is no chat event. -/
  | undecodable (detail : String)
  /-- A field of the event is absent or blank (`missing`), or breaks its limits. -/
  | invalidField (field detail : String) (missing : Bool)
  /-- The datastore cannot answer now. -/
  | datastoreUnavailable (detail : String)
  /-- Another row has one of the keys already. -/
  | notUnique (constraint : Option String)
  /-- The datastore refuses the row. -/
  | datastoreRejected (detail : String)
  /-- The dead letter could not be published. -/
  | letterUnpublished (detail : String)
  /-- Anything else. -/
  | unexpected (detail : String)
  deriving DecidableEq, Repr

namespace Failure

/-- A required field is absent or blank. -/
def missingField (field : String) : Failure := .invalidField field "is required" true

/-- A field breaks its limits. -/
def brokenField (field detail : String) : Failure := .invalidField field detail false

/-- The wording of a failure. -/
def message : Failure → String
  | undecodable detail => "deserialization error: " ++ detail
  | invalidField field detail _ => "validation error on " ++ field ++ ": " ++ detail
  | datastoreUnavailable detail => "datastore transient error: " ++ detail
  | notUnique constraint => "unique constraint violated: " ++ constraint.getD "unnamed"
  | datastoreRejected detail => "datastore rejected row: " ++ detail
  | letterUnpublished detail => "dead-letter publish failed: " ++ detail
  | unexpected detail => "unexpected error: " ++ detail

/-- **The class of a failure**: what is wrong with the record itself stays wrong. -/
def failureClass : Failure → FailureClass
  | undecodable _ | invalidField .. | datastoreRejected _ => .nonRecoverable
  | datastoreUnavailable _ | notUnique _ | letterUnpublished _ | unexpected _ => .recoverable

/-- **The reason of a failure.** -/
def reason : Failure → Reason
  | undecodable _ => .malformedPayload
  | invalidField _ _ missing => if missing then .missingField else .schemaViolation
  | datastoreRejected _ => .schemaViolation
  | datastoreUnavailable _ => .datastoreUnavailable
  | notUnique _ => .duplicateRace
  | letterUnpublished _ => .deadLetterUnavailable
  | unexpected _ => .unknown

/-- The failure is a lost race for a unique key. -/
def isNotUnique : Failure → Bool
  | notUnique _ => true
  | _ => false

end Failure

end MessageIntake
