import MessageIntake.StopSignal
import MessageIntake.Worker
/-!
# Posts

What one worker of a rehearsal has before it: a source with listed items, listed answers to
its acknowledgements, the stop signal as it sees it, and a trace of what it did when.
-/

namespace MessageIntake.Rehearsal

/-- **An item of a source.** -/
inductive Item where
  | record (record : Record)
  | fault (fault : Transport.Fault)
  /-- Nothing comes for so many milliseconds from when it is first asked for. -/
  | silence (millis : Nat)

/-- What a worker did with its source. -/
inductive Deed where
  | delivered (record : Record)
  | faulted
  | acked (record : Record)
  | ackFailed (record : Record)
  | nacked (record : Record)
  | nackFailed (record : Record)

/-- **A worker's post.** -/
structure Post where
  items : List Item
  /-- The end of the silence at the head of the items, once it was asked for. -/
  silentUntil : Option Nat
  /-- The source stays open after its last item. -/
  staysOpen : Bool
  /-- Which of the coming acknowledgements succeed; those after the list do. -/
  acks : List Bool
  /-- Which of the coming rewinds succeed; those after the list do. -/
  nacks : List Bool
  signal : StopSignal
  /-- The deeds and their times, the newest first. -/
  trace : List (Nat × Deed)

namespace Post

/-- The post at the start. -/
def opening (items : List Item) (staysOpen : Bool) (acks nacks : List Bool)
    (signal : StopSignal) : Post :=
  ⟨items, none, staysOpen, acks, nacks, signal, []⟩

/-- The post after a deed. -/
def note (now : Nat) (deed : Deed) (p : Post) : Post := { p with trace := (now, deed) :: p.trace }

/-- The fault of an acknowledgement that fails. -/
def ackFault : Transport.Fault := ⟨"commit failed"⟩

/-- The fault of a rewind that fails. -/
def nackFault : Transport.Fault := ⟨"seek failed"⟩

/-- Acknowledging a record. -/
def ack (now : Nat) (record : Record) (p : Post) : Except Transport.Fault Unit × Post :=
  let next := { p with acks := p.acks.tail }
  if p.acks.headD true then (.ok (), next.note now (.acked record))
  else (.error ackFault, next.note now (.ackFailed record))

/-- Asking for a record again: it comes next, unless the rewind fails. -/
def nack (now : Nat) (record : Record) (p : Post) : Except Transport.Fault Unit × Post :=
  let next := { p with nacks := p.nacks.tail }
  if p.nacks.headD true then
    (.ok (), { next with items := .record record.again :: p.items }.note now (.nacked record))
  else (.error nackFault, next.note now (.nackFailed record))

/-- What the source gives at a time, `items` being what is left of it. -/
def take (now : Nat) (p : Post) :
    List Item → Option (Option (Except Transport.Fault Record)) × Post
  | [] => (if p.staysOpen then none else some none, { p with items := [] })
  | .record record :: rest =>
    (some (some (.ok record)), { p with items := rest }.note now (.delivered record))
  | .fault fault :: rest =>
    (some (some (.error fault)), { p with items := rest }.note now .faulted)
  | .silence millis :: rest =>
    let silenceEnd := p.silentUntil.getD (now + millis)
    if silenceEnd ≤ now then take now { p with silentUntil := none } rest
    else (none, { p with items := .silence millis :: rest, silentUntil := some silenceEnd })

/-- A poll of the signal at this post. -/
def ofSignal {α : Type} (poll : Poll StopSignal α) : Poll Post α :=
  poll.within Post.signal fun signal p => { p with signal }

/-- **Receiving** at a time: the race for a record. -/
def receive (now : Nat) : Poll Post Arrival :=
  Worker.receiving (ofSignal StopSignal.changed) fun p => p.take now p.items

/-- **Waiting** until `due`: the race of the wait. Of what comes in one moment the alarm is the
first. -/
def rest (now due : Nat) : Poll Post Rest :=
  Worker.resting true (fun p => (if due ≤ now then some () else none, p))
    (ofSignal (StopSignal.awaited true))

end Post

end MessageIntake.Rehearsal
