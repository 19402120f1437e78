import MessageIntake.Dialogue
import MessageIntake.Event
import MessageIntake.Message
/-!
# Stores of messages

What a store of messages can be asked. A store keeps each event's message once: it refuses
an event whose `eventId` or `clientMsgId` it has already, and it numbers the messages of
each conversation in the order in which it takes them.
-/

namespace MessageIntake.Store

/-- **What a store can be asked.** -/
inductive Question where
  | findByEventId (id : String)
  | findByClientMsgId (id : String)
  /-- Number the event and keep its message. -/
  | insert (event : AcceptedEvent)
  /-- The last number given out in a conversation. -/
  | lastSeq (conversationId : String)
  deriving DecidableEq, Repr

/-- What a store answers if nothing fails. -/
@[reducible] def Question.Result : Question → Type
  | findByEventId _ => Option Message
  | findByClientMsgId _ => Option Message
  | insert _ => Message
  | lastSeq _ => Int

/-- **The interface of a store**; every question may fail. -/
@[reducible] def api : Interface where
  Question := Question
  Answer q := Except Failure q.Result

/-- The short name of a question. -/
def Question.name : Question → String
  | findByEventId _ => "find_event"
  | findByClientMsgId _ => "find_client"
  | insert _ => "insert"
  | lastSeq _ => "last_seq"

/-- The message of an event under its number. -/
def messageOf (event : AcceptedEvent) (id seqNo : Int) : Message where
  id
  eventId := event.eventId
  clientMsgId := event.clientMsgId
  conversationId := event.conversationId
  senderId := event.senderId
  recipientId := event.recipientId
  content := event.content
  attachmentUrl := event.attachmentUrl
  seqNo
  createdAt := event.createdAt
  readAt := none
  deletedAt := none

/-- The name of the unique key on `eventId`. -/
def eventIdKey : String := "uk_messages_event_id"

/-- The name of the unique key on `clientMsgId`. -/
def clientMsgIdKey : String := "uk_messages_client_msg_id"

end MessageIntake.Store
