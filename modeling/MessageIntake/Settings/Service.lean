import MessageIntake.Settings.Backoff
import MessageIntake.Settings.Broker
import MessageIntake.Settings.Database
import MessageIntake.Settings.DotEnv
import MessageIntake.Settings.LogFormat
/-!
# Settings of the service

All settings together. A service whose settings are accepted never waits longer for a
redelivery than its consumers may stay away from the broker.

Main entry: `Service.ofEnvironment?`.
-/

namespace MessageIntake.Settings

/-- **Settings of the service.** -/
structure Service where
  database : Database
  broker : Broker
  retry : RetryPolicy
  /-- How long records at hand may take to be settled after the stop signal. -/
  shutdownGrace : Span
  metricsPort : Nat
  runMigrations : Bool
  logFormat : LogFormat
  deriving DecidableEq, Repr

/-- **What is wrong with the settings of a service.** -/
inductive ServiceFault where
  | database (fault : VariableFault)
  | broker (fault : BrokerFault)
  | retry (fault : BackoffFault)
  | overlong (fault : RetryPolicy.Overlong)
  | logFormat (fault : LogFormat.Unknown)

/-- **The wording of a fault**, from the outermost cause to the innermost. -/
def ServiceFault.chain : ServiceFault → List String
  | database fault => [fault.message]
  | broker fault => ["Invalid Kafka configuration", fault.message]
  | retry fault => ["Invalid retry configuration", fault.message]
  | overlong fault => [fault.message]
  | logFormat fault => [fault.message]

namespace Service

/-- The name of the service. -/
def name : String := "chat-ingest-service"

/-- The log format in an environment. -/
def logFormatIn (env : Environment) : Except LogFormat.Unknown LogFormat :=
  match env.text? "LOG_FORMAT" with
  | none => .ok .pretty
  | some text => LogFormat.ofText? text

/-- **The settings in an environment.** -/
def ofEnvironment? (env : Environment) : Except ServiceFault Service := do
  let database ← (Database.ofEnvironment? env name).mapError .database
  let broker ← (Broker.ofEnvironment? env).mapError .broker
  let retry ← (Backoff.ofEnvironment? env).mapError .retry
  (retry.fitsPollInterval broker.maxPollInterval).mapError .overlong
  let logFormat ← (logFormatIn env).mapError .logFormat
  return {
    database, broker, retry, logFormat
    shutdownGrace := .ofSeconds (env.lenient .word64 "SHUTDOWN_GRACE_SECS" 30)
    metricsPort := env.lenient .word16 "METRICS_PORT" 9090
    runMigrations := env.lenient .truth "RUN_MIGRATIONS" true }

end Service

end MessageIntake.Settings
