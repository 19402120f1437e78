import MessageIntake.Event
import MessageIntake.Record
/-!
# Dead letters

A record that cannot be stored is republished as a *letter*: the fields of its payload, or
the payload's text if it is no object, together with where it came from and why it failed.
The keys of the router's own fields are reserved: a field of the payload under one of them
is dropped, so that no sender can forge them.

Main entries: `Letter.ofRecord` and `Letter.text`.
-/

namespace MessageIntake

/-- **A dead letter.** -/
structure Letter where
  /-- The fields of the payload, if it was an object. -/
  payloadFields : Json.Members
  /-- The text of the payload, if it was none. -/
  rawPayload : Option String
  originTopic : String
  originPartition : Int
  originOffset : Int
  failureClass : FailureClass
  failureReason : Reason
  failureDetail : String
  attemptCount : Nat
  failedAt : Timestamp

namespace Letter

/-- **The keys of the router's fields.** -/
def reservedKeys : List String :=
  ["originTopic", "originPartition", "originOffset", "failureClass", "failureReason",
    "failureDetail", "attemptCount", "failedAt", "rawPayload"]

/-- The topic to which the letters of a topic go. -/
def topic (originTopic suffix : String) : String := originTopic ++ suffix

/-- **What is kept of a payload**: the fields of an object, else its text. -/
def keep (payload : Option Bytes) : Json.Members × Option String :=
  match payload with
  | none => ([], none)
  | some bytes =>
    match Json.read bytes with
    | .ok (.object members) => (Json.Members.without members reservedKeys, none)
    | _ => ([], some (Utf8.decodeLossy bytes))

/-- **The letter of a record** that failed. -/
def ofRecord (record : Record) (failureClass : FailureClass) (reason : Reason)
    (detail : String) (attempts : Nat) (failedAt : Timestamp) : Letter :=
  let (payloadFields, rawPayload) := keep record.payload
  { payloadFields, rawPayload
    originTopic := record.topic
    originPartition := record.partition
    originOffset := record.offset
    failureClass
    failureReason := reason
    failureDetail := detail
    attemptCount := attempts
    failedAt }

/-- The router's fields in their order. -/
def routerFields (letter : Letter) : List (String × Json) :=
  [ ("originTopic", .string letter.originTopic),
    ("originPartition", .ofInt letter.originPartition),
    ("originOffset", .ofInt letter.originOffset),
    ("failureClass", .string letter.failureClass.code),
    ("failureReason", .string letter.failureReason.code),
    ("failureDetail", .string letter.failureDetail),
    ("attemptCount", .ofNat letter.attemptCount),
    ("failedAt", .string letter.failedAt.text) ]

/-- All fields in the order in which they are written: those of the payload, its text, and
the router's. -/
def fields (letter : Letter) : List (String × Json) :=
  letter.payloadFields ++
    (letter.rawPayload.toList.map fun s => ("rawPayload", .string s)) ++ letter.routerFields

/-- **The published text** of a letter. -/
def text (letter : Letter) : String :=
  (Json.object letter.fields).compact

end Letter

end MessageIntake
