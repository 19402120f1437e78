import MessageIntake.Dispatch
import MessageIntake.StopSignal
import MessageIntake.Transport.Health
/-!
# Workers

A worker receives one record after the other, dispatches it and settles it with the
transport. Before a record is delivered again the worker waits; after a fault of the
transport it waits as long as the transport's health says. A stop signal ends the work
between two records and cuts every wait short: the record at hand is settled first, one
that waits for its next delivery is left to the transport.

`Worker.turn` is the work on what is received once, `Worker.run` a number of turns.
-/

namespace MessageIntake

/-- **The summary** of a worker's work: how its records were settled. -/
structure WorkerSummary where
  acked : Nat
  deadLettered : Nat
  retried : Nat
  deriving DecidableEq, Repr

/-- **A worker** between two turns. -/
structure Worker where
  id : Nat
  health : Transport.Health
  summary : WorkerSummary
  deriving DecidableEq, Repr

/-- **What a worker receives**, or why it does not. -/
inductive Arrival where
  | record (record : Record)
  | fault (fault : Transport.Fault)
  /-- There will be no further record. -/
  | closed
  /-- The stop signal was set anew. -/
  | signalled
  /-- Nobody can set the stop signal any more. -/
  | abandoned

/-- How a wait ended. -/
inductive Rest where
  | elapsed
  /-- The stop signal is on, or nobody can set it any more. -/
  | interrupted
  deriving DecidableEq, Repr

namespace Worker

/-! ### The surroundings of a worker -/

/-- **What a worker asks for.** -/
inductive Question where
  | dispatch (question : Dispatch.Question)
  /-- Whether the stop signal is on. -/
  | isStopping
  /-- The next record. -/
  | receive
  /-- That the record is never delivered again. -/
  | ack (record : Record)
  /-- That the record is the next one of its partition. -/
  | nack (record : Record)
  /-- That a span passes, unless the stop signal comes first. -/
  | rest (span : Span)

/-- The interface of a worker. -/
@[reducible] def api : Interface where
  Question := Question
  Answer
    | .dispatch question => Dispatch.api.Answer question
    | .isStopping => Bool
    | .receive => Arrival
    | .ack _ => Except Transport.Fault Unit
    | .nack _ => Except Transport.Fault Unit
    | .rest _ => Rest

/-- Dialogues of a worker. -/
abbrev Talk (α : Type) := Dialogue api Telemetry α

/-- Dispatching a record among a worker's other doings. -/
def dispatching (policy : RetryPolicy) (record : Record) : Talk Disposition :=
  (Dispatch.dispatch policy record).embed Question.dispatch fun _ answer => answer

/-! ### Races -/

end Worker

namespace Arrival

/-- What news of the stop signal are to a worker that waits for a record. -/
def ofNews : StopNews → Arrival
  | .set => signalled
  | .abandoned => abandoned

/-- What the source has for a worker; nothing is left of it when it is closed. -/
def ofSource : Option (Except Transport.Fault Record) → Arrival
  | some (.ok received) => record received
  | some (.error found) => fault found
  | none => closed

end Arrival

namespace Worker

variable {σ : Type}

/-- **The race for a record**: news of the stop signal come first, and only then the source. -/
def receiving (news : Poll σ StopNews)
    (source : Poll σ (Option (Except Transport.Fault Record))) : Poll σ Arrival :=
  (news.map Arrival.ofNews).race (source.map Arrival.ofSource)

/-- **The race of a wait** between its alarm and the stop signal, either of which may be polled
first. -/
def resting (alarmFirst : Bool) (alarm signal : Poll σ Unit) : Poll σ Rest :=
  let elapsed := alarm.map fun _ => Rest.elapsed
  let interrupted := signal.map fun _ => Rest.interrupted
  if alarmFirst then elapsed.race interrupted else interrupted.race elapsed

/-! ### Telemetry -/

/-- A log line of a worker. -/
def line (w : Worker) (level : LogLevel) (message : String)
    (fields : List (String × String)) : Telemetry :=
  .line level message (("worker", Nat.repr w.id) :: fields)

/-- The mark on the worker's health meter. -/
def healthMark (w : Worker) (healthy : Bool) : Telemetry :=
  .meter (.consumerHealthy w.id healthy)

/-- The fields of a record's place. -/
def placeFields (record : Record) : List (String × String) :=
  [("partition", toString record.partition), ("offset", toString record.offset)]

/-- The log line of a record that could not be acknowledged. -/
def ackFailedLine (w : Worker) (record : Record) (fault : Transport.Fault) : Telemetry :=
  w.line .warn "Failed to acknowledge record, it may be redelivered"
    (placeFields record ++ [("error", fault.message)])

/-- The log line of a partition that could not be rewound. -/
def nackFailedLine (w : Worker) (record : Record) (fault : Transport.Fault) : Telemetry :=
  w.line .warn "Failed to rewind partition for redelivery"
    (placeFields record ++ [("error", fault.message)])

/-- The log line of a wait before another delivery. -/
def backoffLine (w : Worker) (record : Record) (attempt : Nat) (delay : Span) : Telemetry :=
  w.line .debug "Backing off before redelivery"
    (placeFields record ++
      [("attempt", Nat.repr attempt), ("delay_ms", Nat.repr delay.millis)])

/-- The log line of a wait that was cut short. -/
def leftLine (w : Worker) (record : Record) : Telemetry :=
  w.line .info "Shutdown during backoff, record left for redelivery"
    [("offset", toString record.offset)]

/-- The log line of a fault in receiving, in the worker's new health. -/
def faultLine (w : Worker) (fault : Transport.Fault) : Telemetry :=
  let streak := ("consecutive_errors", Nat.repr w.health.streak)
  let backoff := ("backoff_secs", Nat.repr w.health.backoff.seconds)
  let error := ("error", fault.message)
  if w.health.isCritical then
    w.line .error "Kafka consumer critically unhealthy" [streak, backoff, error]
  else if w.health.isHealthy then w.line .warn "Kafka receive error" [streak, error]
  else w.line .warn "Kafka consumer unhealthy" [streak, backoff, error]

/-- The log line of a worker's end. -/
def stoppedLine (w : Worker) : Telemetry :=
  w.line .info "Worker stopped"
    [("acked", Nat.repr w.summary.acked), ("dead_lettered", Nat.repr w.summary.deadLettered),
      ("retried", Nat.repr w.summary.retried)]

/-! ### A turn -/

/-- **Counting a settled record.** -/
def count (w : Worker) (disposition : Disposition) : Worker :=
  { w with
    summary :=
      match disposition with
      | .acked _ => { w.summary with acked := w.summary.acked + 1 }
      | .deadLettered .. => { w.summary with deadLettered := w.summary.deadLettered + 1 }
      | .retry .. => { w.summary with retried := w.summary.retried + 1 } }

/-- Acknowledging a record. If that fails the record may be delivered again, and the work
goes on. -/
def acknowledge (w : Worker) (record : Record) : Talk Unit :=
  .ask (.ack record) fun
    | .ok () => .done ()
    | .error fault => .tell (w.ackFailedLine record fault) (.done ())

/-- Waiting, and then asking for another delivery of a record. -/
def redeliver (w : Worker) (record : Record) (delay : Span) (attempt : Nat) : Talk Unit :=
  .tell (w.backoffLine record attempt delay) <|
    .ask (.rest delay) fun
      | .elapsed =>
        .ask (.nack record) fun
          | .ok () => .done ()
          | .error fault => .tell (w.nackFailedLine record fault) (.done ())
      | .interrupted => .tell (w.leftLine record) (.done ())

/-- **Settling a record** with the transport. -/
def settle (w : Worker) (record : Record) : Disposition → Talk Unit
  | .acked _ => w.acknowledge record
  | .deadLettered .. => w.acknowledge record
  | .retry delay attempt _ => w.redeliver record delay attempt

/-- Noting that something was received. -/
def noteSuccess (w : Worker) : Talk Worker :=
  let received := { w with health := w.health.afterSuccess }
  if w.health.recovers then
    .tell (w.line .info "Kafka consumer recovered" []) <|
      .tell (w.healthMark true) (.done received)
  else .done received

/-- **A record was received**: it is dispatched and settled. -/
def onRecord (policy : RetryPolicy) (w : Worker) (record : Record) : Talk Worker :=
  w.noteSuccess.bind fun w =>
    (dispatching policy record).bind fun disposition =>
      ((w.count disposition).settle record disposition).bind fun _ =>
        .done (w.count disposition)

/-- **Nothing could be received**: the worker notes it and waits. -/
def onFault (w : Worker) (fault : Transport.Fault) : Talk Worker :=
  let w := { w with health := w.health.afterFault }
  .tell (.meter .consumerError) <|
    .tell (w.faultLine fault) <|
      .tell (w.healthMark w.health.isHealthy) <|
        .ask (.rest w.health.backoff) fun _ => .done w

/-- **One turn**: the worker afterwards, or nothing if its work is over. -/
def turn (policy : RetryPolicy) (w : Worker) : Talk (Option Worker) :=
  .ask .isStopping fun
    | true => .done none
    | false =>
      .ask .receive fun
        | .signalled => .done (some w)
        | .abandoned => .done none
        | .closed => .tell (w.line .info "Record stream closed" []) (.done none)
        | .fault fault => (w.onFault fault).bind fun w => .done (some w)
        | .record record => (onRecord policy w record).bind fun w => .done (some w)

/-! ### Runs -/

/-- At most `limit` turns; no summary if the work is not over by then. -/
def turns (policy : RetryPolicy) : Nat → Worker → Talk (Option WorkerSummary)
  | 0, _ => .done none
  | limit + 1, w =>
    (turn policy w).bind fun
      | none => .tell w.stoppedLine (.done (some w.summary))
      | some w => turns policy limit w

/-- A worker that has received nothing. -/
def fresh (id : Nat) : Worker := ⟨id, .initial, ⟨0, 0, 0⟩⟩

/-- **A worker's run** of at most `limit` turns. -/
def run (policy : RetryPolicy) (id limit : Nat) : Talk (Option WorkerSummary) :=
  .tell ((fresh id).line .info "Worker started" []) <|
    .tell ((fresh id).healthMark true) (turns policy limit (fresh id))

end Worker

end MessageIntake
