import MessageIntake.Failure
/-!
# Telemetry

What the library tells an observer while it works: lines of a log, and marks on the
meters. Neither waits for an answer, and neither changes what the library does.
-/

namespace MessageIntake

/-- How much a log line matters. -/
inductive LogLevel where
  | trace
  | debug
  | info
  | warn
  | error
  deriving DecidableEq, Repr

/-- The name of a level. -/
def LogLevel.name : LogLevel → String
  | trace => "TRACE"
  | debug => "DEBUG"
  | info => "INFO"
  | warn => "WARN"
  | error => "ERROR"

/-- **A log line**: a message and the values it speaks of, by name. -/
structure LogLine where
  level : LogLevel
  message : String
  fields : List (String × String)
  deriving DecidableEq, Repr

/-- **A mark on a meter.** -/
inductive Meter where
  /-- A record was stored, or found stored. -/
  | processed
  /-- A record went wrong, for whatever reason. -/
  | failed
  /-- A record was found stored. -/
  | duplicate
  /-- A letter was published. -/
  | deadLettered (reason : Reason)
  /-- A record was left for another delivery. -/
  | retried
  /-- The time that one record took was observed. -/
  | timed
  /-- Nothing could be received. -/
  | consumerError
  /-- The transport of a worker is healthy, or no longer so. -/
  | consumerHealthy (worker : Nat) (healthy : Bool)
  deriving DecidableEq, Repr

/-- **Telemetry**: a log line or a mark on a meter. -/
inductive Telemetry where
  | log (line : LogLine)
  | meter (mark : Meter)
  deriving DecidableEq, Repr

/-- A log line as telemetry. -/
def Telemetry.line (level : LogLevel) (message : String) (fields : List (String × String)) :
    Telemetry :=
  .log ⟨level, message, fields⟩

end MessageIntake
