import MessageIntake.Crc32
import MessageIntake.Dialogue
import MessageIntake.Letter
import MessageIntake.Telemetry
/-!
# The outlet of dead letters

A letter is sent to the dead-letter topic of its record's topic, under the record's key and
on the record's partition. Where the dead-letter topic has no such partition the partitioner
chooses one. Nothing is tried again: a letter that cannot be sent is a failure of the record.

Main entry: `Outlet.publish`.
-/

namespace MessageIntake.Outlet

/-- **A message on its way** to a topic. -/
structure Parcel where
  topic : String
  /-- The partition, unless the partitioner is to choose. -/
  partition : Option Int
  key : Option String
  /-- Names and values, in order. -/
  headers : List (String × String)
  payload : String
  deriving DecidableEq, Repr

/-- **Why a parcel was not taken.** -/
inductive Refusal where
  | unknownPartition
  | tooLarge
  | other (detail : String)
  deriving DecidableEq, Repr

/-- The wording of a refusal. -/
def Refusal.message : Refusal → String
  | unknownPartition =>
    "Message production error: UnknownPartition (Local: Unknown partition)"
  | tooLarge => "Message production error: MessageSizeTooLarge (Broker: Message size too large)"
  | other detail => detail

/-- Where a parcel was put. -/
structure Slot where
  partition : Int
  offset : Int
  deriving DecidableEq, Repr

/-- **The interface of the broker**: what becomes of a parcel. -/
@[reducible] def api : Interface where
  Question := Parcel
  Answer _ := Except Refusal Slot

/-- Dialogues with the broker. -/
abbrev Talk (α : Type) := Dialogue api Telemetry α

/-- The parcel of a letter. -/
def parcel (suffix : String) (record : Record) (letter : Letter) : Parcel where
  topic := Letter.topic record.topic suffix
  partition := some record.partition
  key := record.key
  headers :=
    [ ("origin_topic", record.topic), ("origin_partition", toString record.partition),
      ("origin_offset", toString record.offset),
      ("failure_reason", letter.failureReason.code) ]
  payload := letter.text

/-- The log line of a partition that the dead-letter topic does not have. -/
def noPartitionLine (p : Parcel) (record : Record) : Telemetry :=
  .line .warn "Dead-letter topic has no matching partition, letting the partitioner choose"
    [("topic", p.topic), ("partition", toString record.partition)]

/-- The log line of a letter that was sent. -/
def sentLine (p : Parcel) (record : Record) (letter : Letter) (slot : Slot) : Telemetry :=
  .line .info "Record dead-lettered"
    [("topic", p.topic), ("partition", toString slot.partition),
      ("offset", toString slot.offset), ("origin_partition", toString record.partition),
      ("origin_offset", toString record.offset), ("reason", letter.failureReason.code)]

/-- What follows from the broker's answer. -/
def conclude (p : Parcel) (record : Record) (letter : Letter) :
    Except Refusal Slot → Talk (Except Failure Unit)
  | .ok slot => .tell (sentLine p record letter slot) (.done (.ok ()))
  | .error refusal =>
    .done (.error (.letterUnpublished (p.topic ++ ": " ++ refusal.message)))

/-- **Publishing a letter.** -/
def publish (suffix : String) (record : Record) (letter : Letter) :
    Talk (Except Failure Unit) :=
  let p := parcel suffix record letter
  .ask p fun
    | .error .unknownPartition =>
      .tell (noPartitionLine p record) <|
        .ask { p with partition := none } (conclude p record letter)
    | answer => conclude p record letter answer

end MessageIntake.Outlet
