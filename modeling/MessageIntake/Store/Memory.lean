import Std.Data.HashMap
import MessageIntake.Store
/-!
# A store in memory

Messages by their `eventId`, an index from each `clientMsgId` to the event that carries it,
and a counter for each conversation. Nothing is ever changed or removed.
-/

namespace MessageIntake.Store

/-- **A store in memory.** -/
structure Memory where
  lastId : Int
  messages : Std.HashMap String Message
  clientMsgIds : Std.HashMap String String
  counters : Std.HashMap String Int

namespace Memory

/-- The store without messages. -/
def empty : Memory := ⟨0, ∅, ∅, ∅⟩

/-- The number of messages. -/
def size (m : Memory) : Nat := m.messages.size

/-- The message of an event. -/
def findByEventId (m : Memory) (id : String) : Option Message := m.messages[id]?

/-- The message that carries a client's identifier. -/
def findByClientMsgId (m : Memory) (id : String) : Option Message :=
  m.clientMsgIds[id]?.bind (m.messages[·]?)

/-- The last number given out in a conversation, zero if there is none. -/
def lastSeq (m : Memory) (conversationId : String) : Int := m.counters.getD conversationId 0

/-- The unique key that stands against an event; `eventId` is looked at first. -/
def conflict? (m : Memory) (event : AcceptedEvent) : Option String :=
  if m.messages.contains event.eventId then some eventIdKey
  else
    match event.clientMsgId with
    | some id => if m.clientMsgIds.contains id then some clientMsgIdKey else none
    | none => none

/-- The store with the message of an event added. -/
def add (m : Memory) (event : AcceptedEvent) (message : Message) : Memory where
  lastId := message.id
  messages := m.messages.insert event.eventId message
  clientMsgIds :=
    match event.clientMsgId with
    | some id => m.clientMsgIds.insert id event.eventId
    | none => m.clientMsgIds
  counters := m.counters.insert event.conversationId message.seqNo

/-- **Inserting an event**: it gets the next number of its conversation, unless one of its
keys is taken. -/
def insert (m : Memory) (event : AcceptedEvent) : Except Failure Message × Memory :=
  match m.conflict? event with
  | some key => (.error (.notUnique (some key)), m)
  | none =>
    let message := messageOf event (m.lastId + 1) (m.lastSeq event.conversationId + 1)
    (.ok message, m.add event message)

/-- An event against which a key stands changes nothing. -/
theorem insert_of_conflict {m : Memory} {event : AcceptedEvent} {key : String}
    (h : m.conflict? event = some key) :
    m.insert event = (.error (.notUnique (some key)), m) := by
  simp [insert, h]

/-- Any other event is numbered after the last message of its conversation. -/
theorem insert_of_free {m : Memory} {event : AcceptedEvent}
    (h : m.conflict? event = none) :
    (m.insert event).1 =
      .ok (messageOf event (m.lastId + 1) (m.lastSeq event.conversationId + 1)) := by
  simp [insert, h]

/-- All messages, in no particular order. -/
def rows (m : Memory) : List Message := m.messages.toList.map Prod.snd

/-- The messages of a conversation in the order of their numbers. -/
def conversation (m : Memory) (id : String) : List Message :=
  (m.rows.filter (·.conversationId == id)).mergeSort (·.seqNo ≤ ·.seqNo)

/-- **How the store answers.** Only an insert can fail, and only on a key that is taken. -/
def answer (m : Memory) : (q : Question) → Except Failure q.Result × Memory
  | .findByEventId id => (.ok (m.findByEventId id), m)
  | .findByClientMsgId id => (.ok (m.findByClientMsgId id), m)
  | .insert event => m.insert event
  | .lastSeq conversationId => (.ok (m.lastSeq conversationId), m)

end Memory

end MessageIntake.Store
