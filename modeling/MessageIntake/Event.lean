import MessageIntake.Failure
import MessageIntake.Json.Reader
import MessageIntake.Json.Printer
import MessageIntake.Text.Blank
import MessageIntake.Timestamp.Reading
/-!
# Chat events

A payload is read into a `ChatEvent`, in which every field may be absent, so that a field
that is missing is found by its name later and not by the reader. Accepting the event then
fills the sender and the recipient from their other spellings, checks what is required and
how long it may be, and dates the event.

Main entries: `ChatEvent.ofPayload?` and `ChatEvent.accept`.
-/

namespace MessageIntake

/-- **A chat event as it was sent.** -/
structure ChatEvent where
  eventId : Option String
  clientMsgId : Option String
  conversationId : Option String
  senderId : Option String
  recipientId : Option String
  /-- The gateway's spelling of the sender, field `from`. -/
  gatewaySender : Option String
  /-- The gateway's spelling of the recipient, field `to`. -/
  gatewayRecipient : Option String
  content : Option String
  attachmentUrl : Option String
  sentAt : Option Timestamp
  deriving DecidableEq, Repr

/-- **An event ready to be stored.** -/
structure AcceptedEvent where
  eventId : String
  clientMsgId : Option String
  conversationId : String
  senderId : String
  recipientId : Option String
  content : String
  attachmentUrl : Option String
  /-- When the event was sent, or received if it does not say. -/
  createdAt : Timestamp
  deriving DecidableEq, Repr

/-- **Why a payload is no chat event.** -/
inductive PayloadFault where
  /-- There is no payload: a tombstone. -/
  | missing
  /-- There is nothing but white space in it. -/
  | empty
  /-- It is no JSON, as its reader words it. -/
  | notJson (detail : String)
  /-- It is JSON of another kind than an object. -/
  | notObject (kind : String)
  /-- A known field holds something other than a text. -/
  | notText (found : Json)
  /-- The text of `sentAt` is no instant. -/
  | badInstant (raw : String) (fault : Timestamp.Fault)

namespace PayloadFault

/-- A value as an error message names it. -/
def describe : Json → String
  | .null => "null"
  | .bool b => "boolean `" ++ (if b then "true" else "false") ++ "`"
  | .number (.integer n) => "integer `" ++ (Json.Number.integer n).text ++ "`"
  | .number (.float x) => "floating point `" ++ (Json.Number.float x).text ++ "`"
  | .string s => "string " ++ String.ofList (Json.quote s)
  | .array _ => "sequence"
  | .object _ => "map"

/-- The wording of a fault. -/
def message : PayloadFault → String
  | missing => "missing payload"
  | empty => "empty payload"
  | notJson detail => detail
  | notObject kind => "expected JSON object, got " ++ kind
  | notText found => "invalid type: " ++ describe found ++ ", expected a string"
  | badInstant raw fault => "invalid sentAt '" ++ raw ++ "': " ++ fault.message

end PayloadFault

namespace ChatEvent

/-! ### Reading a payload -/

/-- The text of a member; null and an absent member are no text. -/
def textMember (members : Json.Members) (key : String) :
    Except PayloadFault (Option String) :=
  match members.find? key with
  | none | some .null => .ok none
  | some (.string s) => .ok (some s)
  | some other => .error (.notText other)

/-- A text that is not blank. -/
def unlessBlank (text : Option String) : Option String :=
  text.filter fun s => !Text.allBlank s

/-- **The instant that `sentAt` writes.** Blank text and instants before year 2 mean that
there is none: the zero of many clocks is in year 1. -/
def instant (raw : Option String) : Except PayloadFault (Option Timestamp) :=
  match unlessBlank raw with
  | none => .ok none
  | some raw =>
    match Timestamp.ofText? (Text.trim raw) with
    | .error fault => .error (.badInstant raw fault)
    | .ok t => .ok (if t.year ≤ 1 then none else some t)

/-- **The event in an object.** The first fault in the order of the keys is reported. -/
def ofMembers? (members : Json.Members) : Except PayloadFault ChatEvent := do
  let attachmentUrl ← textMember members "attachmentUrl"
  let clientMsgId ← textMember members "clientMsgId"
  let content ← textMember members "content"
  let conversationId ← textMember members "conversationId"
  let eventId ← textMember members "eventId"
  let gatewaySender ← textMember members "from"
  let recipientId ← textMember members "recipientId"
  let senderId ← textMember members "senderId"
  let sentAt ← textMember members "sentAt"
  let sentAt ← instant sentAt
  let gatewayRecipient ← textMember members "to"
  return {
    eventId, conversationId, content, sentAt
    clientMsgId := unlessBlank clientMsgId
    senderId := unlessBlank senderId
    recipientId := unlessBlank recipientId
    gatewaySender := unlessBlank gatewaySender
    gatewayRecipient := unlessBlank gatewayRecipient
    attachmentUrl := unlessBlank attachmentUrl }

/-- **Reading a payload** into the event it holds. -/
def ofPayload? (payload : Option Bytes) : Except PayloadFault ChatEvent :=
  match payload with
  | none => .error .missing
  | some bytes =>
    if bytes.all Text.isBlankByte then .error .empty
    else
      match Json.ofBytes? bytes with
      | .error detail => .error (.notJson detail)
      | .ok (.object members) => ofMembers? members
      | .ok other => .error (.notObject other.kind)

/-! ### Accepting an event -/

/-- The longest identifier, in characters. -/
def idLimit : Nat := 255

/-- The longest address of an attachment, in characters. -/
def urlLimit : Nat := 2048

/-- The failure of a field that is longer than `limit`. -/
def tooLong? (field : String) (limit : Nat) (value : Option String) : Option Failure :=
  match value with
  | some s =>
    if limit < s.length then
      some (.brokenField field ("exceeds " ++ Nat.repr limit ++ " characters"))
    else none
  | none => none

/-- The failure of a required field that is absent. -/
def absent? (field : String) (value : Option String) : Option Failure :=
  if value.isNone then some (.missingField field) else none

/-- The event with its sender and recipient in one place each. -/
def mergeSpellings (e : ChatEvent) : ChatEvent :=
  { e with
    senderId := e.senderId.or e.gatewaySender
    recipientId := e.recipientId.or e.gatewayRecipient }

/-- **What is wrong with an event's fields**, in the order of their names; the first of it
is reported. -/
def violations (e : ChatEvent) : List Failure :=
  [ tooLong? "attachmentUrl" urlLimit e.attachmentUrl,
    tooLong? "clientMsgId" idLimit e.clientMsgId,
    absent? "content" e.content,
    absent? "conversationId" e.conversationId,
    tooLong? "conversationId" idLimit e.conversationId,
    absent? "eventId" e.eventId,
    tooLong? "eventId" idLimit e.eventId,
    tooLong? "recipientId" idLimit e.recipientId,
    absent? "senderId" e.senderId,
    tooLong? "senderId" idLimit e.senderId ].filterMap id

/-- An identifier that is there and not blank. -/
def identifier (field : String) (value : Option String) : Except Failure String :=
  match unlessBlank value with
  | some s => .ok s
  | none => .error (.missingField field)

/-- **Accepting an event** received at `receivedAt`. -/
def accept (e : ChatEvent) (receivedAt : Timestamp) : Except Failure AcceptedEvent :=
  let e := e.mergeSpellings
  match e.violations with
  | failure :: _ => .error failure
  | [] => do
    let eventId ← identifier "eventId" e.eventId
    let conversationId ← identifier "conversationId" e.conversationId
    let senderId ← identifier "senderId" e.senderId
    let content ← match e.content with
      | some content => pure content
      | none => throw (.missingField "content")
    return {
      eventId, conversationId, senderId, content
      clientMsgId := e.clientMsgId
      recipientId := e.recipientId
      attachmentUrl := e.attachmentUrl
      createdAt := e.sentAt.getD receivedAt }

end ChatEvent

end MessageIntake
