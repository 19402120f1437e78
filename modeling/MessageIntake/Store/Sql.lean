import MessageIntake.Store
import MessageIntake.Store.Sql.Statement
import MessageIntake.Telemetry
/-!
# A store behind SQL statements

Each question to the store is answered by talking with an SQL server. An insert is one
transaction: the counter of the conversation is made if need be, locked and raised by one,
and the message is inserted under the new number. Whatever fails, the transaction is rolled
back, the counter with it, so that no number is lost.

Main entries: `insertSequenced` and `answer`.
-/

namespace MessageIntake.Store.Sql

open Datastore (Fault)

/-- Dialogues with a server. -/
abbrev Talk (α : Type) := Dialogue api Telemetry α

/-! ### Inserting -/

/-- The log line of a number given out. -/
def allocatedLine (conversationId : String) (seqNo : Int) : Telemetry :=
  .line .debug "Allocated sequence number"
    [("conversation_id", conversationId), ("seq_no", toString seqNo)]

/-- Ending a transaction that failed. -/
def abandon {α : Type} (fault : Fault) : Talk (Except Fault α) :=
  .ask .rollback fun _ => .done (.error fault)

/-- Going on within a transaction, or ending it. -/
def orRollback {α β : Type} (next : α → Talk (Except Fault β)) :
    Except Fault α → Talk (Except Fault β)
  | .ok a => next a
  | .error fault => abandon fault

/-- The message in the row that an insert returns. -/
def insertedMessage? (answer : Except Fault (Option MessageRow)) : Except Fault Message :=
  (answer.bind required).bind MessageRow.message?

/-- The value in the row of a counter that was locked. -/
def lockedValue? (answer : Except Fault (Option CounterRow)) : Except Fault Int :=
  (answer.bind required).bind counterValue?

/-- The end of a transaction that has done its work. -/
def commit (message : Message) : Talk (Except Fault Message) :=
  .ask .commit (orRollback fun _ => .done (.ok message))

/-- Inserting the message under its number, and the end of the transaction. -/
def insertNumbered (event : AcceptedEvent) (seqNo : Int) : Talk (Except Fault Message) :=
  .ask (.insertMessage event seqNo) fun answer => orRollback commit (insertedMessage? answer)

/-- **Giving out the next number** of a conversation within a transaction. -/
def allocate (conversationId : String) (next : Int → Talk (Except Fault Message)) :
    Talk (Except Fault Message) :=
  .ask (.addCounter conversationId) <| orRollback fun _ =>
    .ask (.lockCounter conversationId) fun answer =>
      orRollback
        (fun lastSeq =>
          .ask (.setCounter conversationId (lastSeq + 1)) <| orRollback fun _ =>
            .tell (allocatedLine conversationId (lastSeq + 1)) (next (lastSeq + 1)))
        (lockedValue? answer)

/-- **Inserting an event** in one transaction. -/
def insertSequenced (event : AcceptedEvent) : Talk (Except Fault Message) :=
  .ask .begin <| orRollback fun _ =>
    allocate event.conversationId (insertNumbered event)

/-! ### Looking up -/

/-- The message in a row, if there is one. -/
def foundMessage? (answer : Except Fault (Option MessageRow)) :
    Except Fault (Option Message) :=
  answer.bind fun
    | none => .ok none
    | some row => row.message?.map some

/-- The value in the row of a counter, zero if there is none. -/
def lastSeq? (answer : Except Fault (Option CounterRow)) : Except Fault Int :=
  answer.bind fun
    | none => .ok 0
    | some row => counterValue? row

/-- **How the store answers a question**, each fault as the failure that it makes. -/
def answer : (q : Question) → Talk (Except Failure q.Result)
  | .findByEventId id =>
    .ask (.findByEventId id) fun a => .done ((foundMessage? a).mapError Fault.failure)
  | .findByClientMsgId id =>
    .ask (.findByClientMsgId id) fun a => .done ((foundMessage? a).mapError Fault.failure)
  | .insert event =>
    (insertSequenced event).bind fun result => .done (result.mapError Fault.failure)
  | .lastSeq conversationId =>
    .ask (.readCounter conversationId) fun a => .done ((lastSeq? a).mapError Fault.failure)

end MessageIntake.Store.Sql
