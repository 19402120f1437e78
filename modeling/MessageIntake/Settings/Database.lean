import MessageIntake.Settings.Environment
import MessageIntake.Telemetry
/-!
# Settings of the database

Where the database is, and how many connections to it there are for how long. The address
may hold a password, so it is left out when the settings are shown.
-/

namespace MessageIntake.Settings

/-- **Settings of the database**, spans in seconds. -/
structure Database where
  serviceName : String
  url : String
  maxConnections : Nat
  minConnections : Nat
  connectTimeout : Nat
  acquireTimeout : Nat
  idleTimeout : Nat
  maxLifetime : Nat
  deriving DecidableEq, Repr

namespace Database

/-- **The settings in an environment**; only the address is required. -/
def ofEnvironment? (env : Environment) (serviceName : String) :
    Except VariableFault Database :=
  match env.required .text "DATABASE_URL" with
  | .error fault => .error fault
  | .ok url =>
    .ok {
      serviceName, url
      maxConnections := env.lenient .word32 "DB_MAX_CONNECTIONS" 20
      minConnections := env.lenient .word32 "DB_MIN_CONNECTIONS" 5
      connectTimeout := env.lenient .word64 "DB_CONNECT_TIMEOUT_SECS" 5
      acquireTimeout := env.lenient .word64 "DB_ACQUIRE_TIMEOUT_SECS" 10
      idleTimeout := env.lenient .word64 "DB_IDLE_TIMEOUT_SECS" 600
      maxLifetime := env.lenient .word64 "DB_MAX_LIFETIME_SECS" 1800 }

/-- The fields as they are shown. -/
def shownFields (d : Database) : List (String × String) :=
  [ ("service_name", Text.quoted d.serviceName),
    ("database_url", Text.quoted "[REDACTED]"),
    ("max_connections", Nat.repr d.maxConnections),
    ("min_connections", Nat.repr d.minConnections),
    ("connect_timeout_secs", Nat.repr d.connectTimeout),
    ("acquire_timeout_secs", Nat.repr d.acquireTimeout),
    ("idle_timeout_secs", Nat.repr d.idleTimeout),
    ("max_lifetime_secs", Nat.repr d.maxLifetime) ]

/-- **The settings as they are shown**, without the address. -/
def shown (d : Database) : String :=
  "DbConfig \x7b " ++
    ", ".intercalate (d.shownFields.map fun (name, value) => name ++ ": " ++ value) ++ " \x7d"

/-- The log line of the settings. -/
def line (d : Database) : LogLine :=
  ⟨.info,
    "Database Pool Configuration: max_connections=" ++ Nat.repr d.maxConnections ++
      ", min_connections=" ++ Nat.repr d.minConnections ++
      ", connect_timeout=" ++ Nat.repr d.connectTimeout ++
      "s, acquire_timeout=" ++ Nat.repr d.acquireTimeout ++
      "s, idle_timeout=" ++ Nat.repr d.idleTimeout ++
      "s, max_lifetime=" ++ Nat.repr d.maxLifetime ++ "s",
    []⟩

end Database

end MessageIntake.Settings
