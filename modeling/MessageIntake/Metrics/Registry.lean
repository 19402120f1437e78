import MessageIntake.Binary64.Reading
import MessageIntake.Metrics
import MessageIntake.Metrics.Exposition
/-!
# The registry of metrics

The meters of the service and those of its pool of connections, each of which can be
registered once, the families in which they are shown, and the endpoint at which they are
asked for.

Main entries: `Registry.families` and `Endpoint.respond`.
-/

namespace MessageIntake.Metrics

/-- **A registry.** -/
structure Registry where
  /-- The meters of the service and the times that records took, if they are registered. -/
  service : Option (Metrics × Histogram)
  /-- The most connections of each service's pool, if they are registered. -/
  pools : Option (Readings String Int)

/-- **Why something cannot be registered.** -/
inductive RegistryFault where
  /-- It is registered already. -/
  | duplicate
  deriving DecidableEq, Repr

/-- The wording of a fault. -/
def RegistryFault.message : RegistryFault → String
  | duplicate => "Duplicate metrics collector registration attempted"

namespace Registry

/-- The registry without meters. -/
def empty : Registry := ⟨none, none⟩

/-- The bounds of the times that records take, in seconds. -/
def timeBounds : List Binary64 :=
  [(1, -3), (5, -3), (1, -2), (25, -3), (5, -2), (1, -1), (25, -2), (5, -1), (1, 0), (25, -1),
    (5, 0), (10, 0)].map fun (digits, exponent) => .ofDecimal false digits 2 exponent

/-- **Registering the meters of the service.** -/
def registerService (r : Registry) : Except RegistryFault Registry :=
  match r.service with
  | some _ => .error .duplicate
  | none => .ok { r with service := some (.zero, ⟨timeBounds, []⟩) }

/-- **Registering the meters of pools.** -/
def registerPools (r : Registry) : Except RegistryFault Registry :=
  match r.pools with
  | some _ => .error .duplicate
  | none => .ok { r with pools := some [] }

/-- The registry with the meters of the service changed, if they are registered. -/
def change (f : Metrics → Metrics) (r : Registry) : Registry :=
  { r with service := r.service.map fun (m, times) => (f m, times) }

/-- The registry with the time of one more record. -/
def observe (seconds : Binary64) (r : Registry) : Registry :=
  { r with service := r.service.map fun (m, times) => (m.mark .timed, times.observe seconds) }

/-- The registry with the most connections of a service's pool noted. -/
def notePool (service : String) (maxConnections : Int) (r : Registry) : Registry :=
  { r with
    pools := r.pools.map fun pools => pools.change service maxConnections fun _ => maxConnections }

/-- A family of one counter. -/
def counter (name help : String) (n : Nat) : Family :=
  ⟨name, help, "counter", [], [⟨[], .counter n⟩]⟩

/-- The families of the service. -/
def serviceFamilies (m : Metrics) (times : Histogram) : List Family :=
  [ counter "chat_ingest_messages_processed_total"
      "Total number of chat messages persisted and acknowledged" m.processed,
    counter "chat_ingest_messages_failed_total"
      "Total number of chat message processing failures" m.failed,
    counter "chat_ingest_messages_duplicate_total"
      "Total number of redelivered chat messages that were already stored" m.duplicate,
    ⟨"chat_ingest_messages_dead_lettered_total",
      "Total number of chat messages routed to the dead-letter topic", "counter", ["reason"],
      m.deadLettered.map fun (reason, n) => ⟨[reason.code], .counter n⟩⟩,
    counter "chat_ingest_messages_retried_total"
      "Total number of chat messages left unacknowledged for redelivery" m.retried,
    ⟨"chat_ingest_message_processing_seconds", "Time spent processing one inbound record",
      "histogram", [], [⟨[], .histogram times⟩]⟩,
    counter "chat_ingest_consumer_errors_total"
      "Total number of Kafka consumer receive errors" m.consumerErrors,
    ⟨"chat_ingest_consumer_healthy",
      "Consumer health status per worker (1 = healthy, 0 = unhealthy)", "gauge", ["worker"],
      m.healthy.map fun (worker, healthy) => ⟨[Nat.repr worker], .gauge healthy.toNat⟩⟩ ]

/-- The series of one pool, in which there is no connection. -/
def poolSeries (service : String) (maxConnections : Int) : List Series :=
  [⟨[service, "idle"], .gauge 0⟩, ⟨[service, "active"], .gauge 0⟩,
    ⟨[service, "max"], .gauge maxConnections⟩]

/-- The family of pools. -/
def poolFamily (pools : Readings String Int) : Family :=
  ⟨"db_pool_connections", "Database pool connection count by state", "gauge",
    ["service", "state"], pools.flatMap fun (service, n) => poolSeries service n⟩

/-- **The families of a registry.** -/
def families (r : Registry) : List Family :=
  (match r.service with
    | some (m, times) => serviceFamilies m times
    | none => []) ++
  (match r.pools with
    | some pools => [poolFamily pools]
    | none => [])

end Registry

/-! ### The endpoint -/

namespace Endpoint

/-- **A request.** -/
structure Request where
  method : String
  /-- The path, with a query if there is one. -/
  path : String
  deriving DecidableEq, Repr

/-- **A response.** -/
structure Response where
  status : Nat
  contentType : Option String
  body : String
  deriving DecidableEq, Repr

/-- Whether a request reaches the endpoint. -/
inductive Link where
  | reachable
  | unreachable
  deriving DecidableEq, Repr

/-- There is no way to the endpoint. -/
inductive LinkFault where
  | unreachable
  deriving DecidableEq, Repr

/-- The wording of it. -/
def LinkFault.message : LinkFault → String
  | unreachable => "Network is unreachable (os error 101)"

/-- A path without its query. -/
def withoutQuery (path : String) : String :=
  String.ofList (path.toList.takeWhile (· != '?'))

/-- The type of an exposition. -/
def contentType : String := "text/plain; version=0.0.4"

/-- **The answer to a request**: the exposition at its path, and nothing anywhere else. -/
def respond (r : Registry) (request : Request) : Response :=
  if request.method = "GET" ∧ withoutQuery request.path = "/metrics" then
    ⟨200, some contentType, expose r.families⟩
  else ⟨404, none, ""⟩

/-- A request over a link. -/
def exchange (link : Link) (r : Registry) (request : Request) : Except LinkFault Response :=
  match link with
  | .reachable => .ok (respond r request)
  | .unreachable => .error .unreachable

end Endpoint

end MessageIntake.Metrics
