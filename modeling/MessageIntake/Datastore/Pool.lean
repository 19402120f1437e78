import MessageIntake.Datastore.Address
import MessageIntake.Datastore.Fault
import MessageIntake.Dialogue
import MessageIntake.Settings.Database
/-!
# Opening a pool of connections

A pool is opened with one connection, over which a first query verifies that the database
answers in time.

Main entry: `Pool.create`.
-/

namespace MessageIntake.Datastore.Pool

/-- **What opening a pool asks for.** -/
inductive Question where
  /-- A first connection, within the time that getting one may take. -/
  | connect (url : String)
  /-- An answer to a first query, within so many seconds. -/
  | verify (seconds : Nat)

/-- How a verification ended. -/
inductive Verification where
  | answered
  | refused (fault : Fault)
  | timedOut

/-- The interface of opening a pool. -/
@[reducible] def api : Interface where
  Question := Question
  Answer
    | .connect _ => Except Fault Unit
    | .verify _ => Verification

/-- The text of the first query. -/
def verifyText : String := "SELECT 1"

/-- **A pool** that is open: how many connections it may have, and how many it has. -/
structure Opened where
  maxConnections : Nat
  size : Nat
  deriving DecidableEq, Repr

/-- The log line of a pool about to be opened. -/
def creatingLine (d : Settings.Database) : Telemetry :=
  .line .debug
    ("Creating database pool: service=" ++ d.serviceName ++ ", max=" ++
      Nat.repr d.maxConnections ++ ", min=" ++ Nat.repr d.minConnections ++
      ", acquire_timeout=" ++ Nat.repr d.acquireTimeout ++ "s, verify_timeout=" ++
      Nat.repr d.connectTimeout ++ "s, idle_timeout=" ++ Nat.repr d.idleTimeout ++ "s")
    []

/-- The log line of a pool that is verified. -/
def createdLine (d : Settings.Database) : Telemetry :=
  .line .info "Database pool created and verified successfully" [("service", d.serviceName)]

/-- The log line of a verification that was refused. -/
def refusedLine (d : Settings.Database) (fault : Fault) : Telemetry :=
  .line .error "Database connection verification failed"
    [("service", d.serviceName), ("error", fault.message)]

/-- The log line of a verification that was not answered in time. -/
def timedOutLine (d : Settings.Database) : Telemetry :=
  .line .error "Database connection verification timeout"
    [("service", d.serviceName), ("timeout_secs", Nat.repr d.connectTimeout)]

/-- The fault of a verification that was not answered in time. -/
def timedOut : Fault := .connection "Database verification timeout"

/-- **Opening a pool.** -/
def create (d : Settings.Database) : Dialogue api Telemetry (Except Fault Opened) :=
  .tell (creatingLine d) <|
    match addressFault? d.url with
    | some fault => .done (.error (.configuration fault.message))
    | none =>
      .ask (.connect d.url) fun
        | .error fault => .done (.error fault)
        | .ok () =>
          .ask (.verify d.connectTimeout) fun
            | .answered => .tell (createdLine d) (.done (.ok ⟨d.maxConnections, 1⟩))
            | .refused fault => .tell (refusedLine d fault) (.done (.error fault))
            | .timedOut => .tell (timedOutLine d) (.done (.error timedOut))

end MessageIntake.Datastore.Pool
