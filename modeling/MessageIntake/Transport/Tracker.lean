import Std.Data.HashMap
import MessageIntake.Telemetry
/-!
# Counting deliveries

The bookkeeping of one consumer. It counts how often each record was delivered since it was
last acknowledged, and remembers the partitions that were *rewound* to a record, so that
what was fetched ahead of the rewind is passed over until the record comes back.

The counts of records that are never acknowledged here would pile up; when there are as many
counts as the tracker's limit, the next delivery starts with all of them forgotten.
-/

namespace MessageIntake.Transport

/-- The place of a record in the transport. -/
structure RecordPlace where
  topic : String
  partition : Int
  offset : Int
  deriving DecidableEq, Hashable, Repr

/-- A partition of a topic. -/
structure PartitionPlace where
  topic : String
  partition : Int
  deriving DecidableEq, Hashable, Repr

/-- The partition in which a record has its place. -/
def RecordPlace.home (place : RecordPlace) : PartitionPlace := ⟨place.topic, place.partition⟩

/-- **A delivery tracker.** -/
structure Tracker where
  /-- The deliveries of each record since it was last acknowledged. -/
  attempts : Std.HashMap RecordPlace Nat
  /-- The offset to which a partition was rewound and that has not come back yet. -/
  rewound : Std.HashMap PartitionPlace Int
  /-- With so many counts, the next delivery forgets them. -/
  limit : Nat

namespace Tracker

/-- The limit where no other is set. -/
def defaultLimit : Nat := 10000

/-- A tracker that has seen nothing. -/
def empty (limit : Nat) : Tracker := ⟨∅, ∅, limit⟩

/-- The number of records whose deliveries are counted. -/
def tracked (t : Tracker) : Nat := t.attempts.size

/-- The next delivery forgets all counts first. -/
def isFull (t : Tracker) : Bool := t.limit ≤ t.tracked

/-- The tracker without its counts. -/
def forget (t : Tracker) : Tracker := { t with attempts := ∅ }

@[simp] theorem tracked_forget (t : Tracker) : t.forget.tracked = 0 := by
  simp [forget, tracked]

/-- What the tracker says when it forgets. -/
def forgetLine (t : Tracker) : Telemetry :=
  .line .debug "Resetting delivery attempt tracker" [("entries", Nat.repr t.tracked)]

/-- **A delivery**: which one it is of this record, with what there is to log. -/
def delivered (t : Tracker) (place : RecordPlace) : Nat × Tracker × List Telemetry :=
  let base := if t.isFull then t.forget else t
  let attempt := base.attempts.getD place 0 + 1
  (attempt, { base with attempts := base.attempts.insert place attempt },
    if t.isFull then [t.forgetLine] else [])

/-- Deliveries are numbered from one. -/
theorem delivered_pos (t : Tracker) (place : RecordPlace) : 0 < (t.delivered place).1 :=
  Nat.succ_pos _

/-- The record was acknowledged; its next delivery is the first again. -/
def acknowledged (t : Tracker) (place : RecordPlace) : Tracker :=
  { t with attempts := t.attempts.erase place }

/-- **A rewind**: the record is to be the next one of its partition. -/
def rewoundTo (t : Tracker) (place : RecordPlace) : Tracker :=
  { t with rewound := t.rewound.insert place.home place.offset }

/-- **What a fetched record is to make of a rewind**: the offset to go back to if the record
lies behind it, nothing if the record can be delivered. Reaching the offset, or one before
it, ends the rewind. -/
def staleRewind (t : Tracker) (place : RecordPlace) : Option Int × Tracker :=
  match t.rewound[place.home]? with
  | none => (none, t)
  | some expected =>
    if place.offset ≤ expected then (none, { t with rewound := t.rewound.erase place.home })
    else (some expected, t)

/-- In a partition that was not rewound every record can be delivered. -/
theorem staleRewind_of_not_mem {t : Tracker} {place : RecordPlace}
    (h : t.rewound[place.home]? = none) : t.staleRewind place = (none, t) := by
  simp [staleRewind, h]

/-- Gives up a rewind. -/
def clearRewind (t : Tracker) (place : PartitionPlace) : Tracker :=
  { t with rewound := t.rewound.erase place }

end Tracker

end MessageIntake.Transport
