import MessageIntake.Datastore.Fault
import MessageIntake.Dialogue
import MessageIntake.Event
import MessageIntake.Message
/-!
# Statements

The statements that a store sends to an SQL server, with their texts and parameters, and the
rows that the server answers with. A server may leave any column of a row null, so a row is
*read* before it is a message.

Two tables are spoken of: `messages`, and `conversation_seq` with one counter for each
conversation, the last number given out in it.
-/

namespace MessageIntake.Store.Sql

open Datastore (Fault)

/-- **A statement.** -/
inductive Statement where
  | begin
  | commit
  | rollback
  | findByEventId (id : String)
  | findByClientMsgId (id : String)
  /-- The value of a counter, outside a transaction. -/
  | readCounter (conversationId : String)
  /-- A counter at zero, unless there is one. -/
  | addCounter (conversationId : String)
  /-- The value of a counter, which no other transaction gets until this one ends. -/
  | lockCounter (conversationId : String)
  | setCounter (conversationId : String) (value : Int)
  | insertMessage (event : AcceptedEvent) (seqNo : Int)
  deriving DecidableEq, Repr

/-- A parameter of a statement. -/
inductive Parameter where
  | null
  | text (s : String)
  | int (n : Int)
  | time (t : Timestamp)
  deriving DecidableEq, Repr

namespace Statement

/-- The columns of a message in their order. -/
def messageColumns : String :=
  "id, event_id, client_msg_id, conversation_id, sender_id, recipient_id, content, " ++
    "attachment_url, seq_no, created_at, read_at, deleted_at"

/-- **The text of a statement**, in one line. -/
def text : Statement → String
  | begin => "BEGIN"
  | commit => "COMMIT"
  | rollback => "ROLLBACK"
  | findByEventId _ => "SELECT " ++ messageColumns ++ " FROM messages WHERE event_id = $1"
  | findByClientMsgId _ =>
    "SELECT " ++ messageColumns ++ " FROM messages WHERE client_msg_id = $1"
  | readCounter _ => "SELECT last_seq FROM conversation_seq WHERE conversation_id = $1"
  | addCounter _ =>
    "INSERT INTO conversation_seq (conversation_id, last_seq) VALUES ($1, 0) " ++
      "ON CONFLICT (conversation_id) DO NOTHING"
  | lockCounter _ =>
    "SELECT last_seq FROM conversation_seq WHERE conversation_id = $1 FOR UPDATE"
  | setCounter .. =>
    "UPDATE conversation_seq SET last_seq = $2, updated_at = NOW() " ++
      "WHERE conversation_id = $1"
  | insertMessage .. =>
    "INSERT INTO messages ( event_id, client_msg_id, conversation_id, sender_id, " ++
      "recipient_id, content, attachment_url, seq_no, created_at ) " ++
      "VALUES ($1, $2, $3, $4, $5, $6, $7, $8, $9) RETURNING " ++ messageColumns

/-- A text that may be absent, as a parameter. -/
def optionalText : Option String → Parameter
  | some s => .text s
  | none => .null

/-- **The parameters of a statement** in their order. -/
def parameters : Statement → List Parameter
  | begin | commit | rollback => []
  | findByEventId id | findByClientMsgId id => [.text id]
  | readCounter id | addCounter id | lockCounter id => [.text id]
  | setCounter id value => [.text id, .int value]
  | insertMessage event seqNo =>
    [ .text event.eventId, optionalText event.clientMsgId, .text event.conversationId,
      .text event.senderId, optionalText event.recipientId, .text event.content,
      optionalText event.attachmentUrl, .int seqNo, .time event.createdAt ]

end Statement

/-! ### Rows -/

/-- **A row with the columns of a message**, any of which may be null. -/
structure MessageRow where
  id : Option Int
  eventId : Option String
  clientMsgId : Option String
  conversationId : Option String
  senderId : Option String
  recipientId : Option String
  content : Option String
  attachmentUrl : Option String
  seqNo : Option Int
  createdAt : Option Timestamp
  readAt : Option Timestamp
  deletedAt : Option Timestamp
  deriving DecidableEq, Repr

/-- What is wrong with a null that must not be one. -/
def unexpectedNull : String := "unexpected null; try decoding as an \x60Option\x60"

/-- A column that must not be null. -/
def present {α : Type} (column : String) : Option α → Except Fault α
  | some a => .ok a
  | none => .error (.undecodableColumn ("\x22" ++ column ++ "\x22") unexpectedNull)

/-- **Reading a message**; the first null that must not be one is reported. -/
def MessageRow.message? (r : MessageRow) : Except Fault Message := do
  let id ← present "id" r.id
  let eventId ← present "event_id" r.eventId
  let conversationId ← present "conversation_id" r.conversationId
  let senderId ← present "sender_id" r.senderId
  let content ← present "content" r.content
  let seqNo ← present "seq_no" r.seqNo
  let createdAt ← present "created_at" r.createdAt
  return {
    id, eventId, conversationId, senderId, content, seqNo, createdAt
    clientMsgId := r.clientMsgId
    recipientId := r.recipientId
    attachmentUrl := r.attachmentUrl
    readAt := r.readAt
    deletedAt := r.deletedAt }

/-- The row of a message. -/
def MessageRow.ofMessage (m : Message) : MessageRow :=
  ⟨m.id, m.eventId, m.clientMsgId, m.conversationId, m.senderId, m.recipientId, m.content,
    m.attachmentUrl, m.seqNo, m.createdAt, m.readAt, m.deletedAt⟩

/-- **The row of a message reads as the message.** -/
theorem MessageRow.message?_ofMessage (m : Message) : (ofMessage m).message? = .ok m := rfl

/-- A row with one column, the value of a counter. -/
abbrev CounterRow := Option Int

/-- Reading the value of a counter. -/
def counterValue? : CounterRow → Except Fault Int
  | some n => .ok n
  | none => .error (.undecodableColumn "0" unexpectedNull)

/-- A row that has to be there. -/
def required {α : Type} : Option α → Except Fault α
  | some row => .ok row
  | none => .error .rowNotFound

/-! ### The server -/

/-- **The interface of a server**: what it answers to each statement, if it does not refuse
it. Where rows are asked for there is at most one. -/
@[reducible] def api : Interface where
  Question := Statement
  Answer
    | .begin => Except Fault Unit
    | .commit => Except Fault Unit
    | .rollback => Unit
    | .findByEventId _ => Except Fault (Option MessageRow)
    | .findByClientMsgId _ => Except Fault (Option MessageRow)
    | .readCounter _ => Except Fault (Option CounterRow)
    | .addCounter _ => Except Fault Unit
    | .lockCounter _ => Except Fault (Option CounterRow)
    | .setCounter .. => Except Fault Unit
    | .insertMessage .. => Except Fault (Option MessageRow)

end MessageIntake.Store.Sql
