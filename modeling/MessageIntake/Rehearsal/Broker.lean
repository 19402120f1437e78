import MessageIntake.Letter.Outlet
/-!
# A broker with known topics

A broker that takes parcels for its topics, puts each one behind the last of its partition,
and keeps what it took.
-/

namespace MessageIntake.Rehearsal

open Outlet (Parcel Refusal Slot)

/-- **A broker.** -/
structure Broker where
  /-- The topics and how many partitions each of them has. -/
  topics : List (String × Nat)
  /-- The parcels taken and where they were put, the newest first. -/
  taken : List (Parcel × Slot)
  told : List Telemetry

namespace Broker

/-- The broker before the first parcel. -/
def opening (topics : List (String × Nat)) : Broker := ⟨topics, [], []⟩

/-- The largest payload in bytes. -/
def payloadLimit : Nat := 1000000

/-- The partition by which one asks the partitioner. -/
def unassigned : Int := -1

/-- **The partitioner**: the check value of the key decides; without a key any partition
would do, and the first one is taken. -/
def choose (partitions : Nat) (key : Option String) : Int :=
  match key with
  | some key =>
    if key.isEmpty then 0 else ((Crc32.checksum (Utf8.encode key)).toNat % partitions : Nat)
  | none => 0

/-- The number of parcels on a partition of a topic. -/
def depth (b : Broker) (topic : String) (partition : Int) : Nat :=
  (b.taken.filter fun (p, slot) => p.topic == topic && slot.partition == partition).length

/-- Putting a parcel on a partition. -/
def put (b : Broker) (p : Parcel) (partition : Int) : Except Refusal Slot × Broker :=
  let slot := ⟨partition, b.depth p.topic partition⟩
  (.ok slot, { b with taken := (p, slot) :: b.taken })

/-- **Taking a parcel.** Its size is looked at first. -/
def take (p : Parcel) (b : Broker) : Except Refusal Slot × Broker :=
  if payloadLimit < p.payload.utf8ByteSize then (.error .tooLarge, b)
  else
    match b.topics.lookup p.topic with
    | none => (.error (.other "unknown topic"), b)
    | some partitions =>
      let partition := p.partition.getD unassigned
      if partition = unassigned then b.put p (choose partitions p.key)
      else if 0 ≤ partition && partition < partitions then b.put p partition
      else (.error .unknownPartition, b)

/-- The broker as surroundings. -/
def surroundings : Dialogue.Surroundings Outlet.api Telemetry Broker where
  answer p b := b.take p
  hear note b := { b with told := note :: b.told }

/-- Publishing a letter to the broker. -/
def publish (suffix : String) (record : Record) (letter : Letter) (b : Broker) :
    Except Failure Unit × Broker :=
  (Outlet.publish suffix record letter).run surroundings b

end Broker

end MessageIntake.Rehearsal
