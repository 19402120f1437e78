import MessageIntake.Store
import MessageIntake.Telemetry
/-!
# Storing an event once

An event that is delivered again is recognised by its `eventId`, or by the identifier that
its client gave it, and the stored message is returned as a duplicate. Between looking and
inserting another worker may store the same event; the insert then fails on a unique key,
and looking again finds that message. This is done at most twice more.
-/

namespace MessageIntake.Persistence

open Store (Question)

/-- Dialogues with a store. -/
abbrev Talk (α : Type) := Dialogue Store.api Telemetry (Except Failure α)

/-- How often an insert that lost a race is followed by another look. -/
def maxRelookups : Nat := 2

/-- The log line of an event found stored. -/
def duplicateLine (event : AcceptedEvent) (stored : Message) : Telemetry :=
  .line .debug "Duplicate event, returning stored message"
    [("event_id", event.eventId), ("conversation_id", stored.conversationId),
      ("seq_no", toString stored.seqNo)]

/-- The log line of an event stored. -/
def persistedLine (message : Message) : Telemetry :=
  .line .info "Message persisted"
    [("event_id", message.eventId), ("conversation_id", message.conversationId),
      ("seq_no", toString message.seqNo)]

/-- The log line of a lost race. -/
def raceLine (event : AcceptedEvent) (relookup : Nat) (failure : Failure) : Telemetry :=
  .line .warn "Concurrent insert for the same event, re-checking for duplicate"
    [("event_id", event.eventId), ("relookup", Nat.repr relookup),
      ("error", failure.message)]

/-- **Looking for an event**: by its own identifier, then by its client's. -/
def findExisting (event : AcceptedEvent) : Talk (Option Message) :=
  .ask (.findByEventId event.eventId) fun
    | .error failure => .done (.error failure)
    | .ok (some message) => .done (.ok (some message))
    | .ok none =>
      match event.clientMsgId with
      | none => .done (.ok none)
      | some id => .ask (.findByClientMsgId id) .done

/-- One look and, if nothing is found, one insert; `refused` is how to go on after an insert
that fails. -/
def round (event : AcceptedEvent) (refused : Failure → Talk Outcome) : Talk Outcome :=
  (findExisting event).bind fun
    | .error failure => .done (.error failure)
    | .ok (some stored) => .tell (duplicateLine event stored) (.done (.ok ⟨stored, true⟩))
    | .ok none =>
      .ask (.insert event) fun
        | .ok message => .tell (persistedLine message) (.done (.ok ⟨message, false⟩))
        | .error failure => refused failure

/-- The rounds that follow `relookups` lost races, with `left` more looks allowed. -/
def rounds (event : AcceptedEvent) (relookups : Nat) : Nat → Talk Outcome
  | 0 => round event fun failure => .done (.error failure)
  | left + 1 =>
    round event fun failure =>
      if failure.isNotUnique then
        .tell (raceLine event (relookups + 1) failure) (rounds event (relookups + 1) left)
      else .done (.error failure)

/-- **Storing an event.** -/
def persist (event : AcceptedEvent) : Talk Outcome :=
  rounds event 0 maxRelookups

end MessageIntake.Persistence
