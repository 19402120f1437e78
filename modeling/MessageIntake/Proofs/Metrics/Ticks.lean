import Mathlib.Algebra.GroupWithZero.Nat
import MessageIntake.Dispatch
import MessageIntake.Metrics
import MessageIntake.Proofs.Passage
/-!
# Ticks

A *tick* is a mark on a meter that counts records, or the first word of a dispatch. All other
telemetry leaves the counts of records alone.

Main statement: the meters show how often each of them was marked (`Metrics.Shows.hear`).
-/

namespace MessageIntake

/-- The meter counts records. -/
def Meter.countsRecords : Meter → Bool
  | consumerError | consumerHealthy .. => false
  | _ => true

/-- **A tick**: a dispatch begins, or a meter that counts records is marked. -/
inductive Tick where
  | begun
  | marked (mark : Meter)
  deriving DecidableEq, Repr

namespace Tick

variable {I : Interface} {ν σ : Type}

/-- The tick of a note. -/
def ofNote? : Telemetry → Option Tick
  | .log line =>
    if Telemetry.log line = Dispatch.moveLine .received .reading then some .begun else none
  | .meter mark => if mark.countsRecords then some (.marked mark) else none

/-- The tick of an event. -/
def of? : Dialogue.Event I Telemetry σ → Option Tick
  | .told note => ofNote? note
  | .answered .. => none

/-- A letter was recorded, whatever the reason. -/
def isLettered : Tick → Bool
  | .marked (.deadLettered _) => true
  | _ => false

end Tick

namespace Dialogue

variable {I J : Interface} {σ : Type}

/-- **The ticks** of some events, the oldest first. -/
def ticks (events : List (Event I Telemetry σ)) : List Tick := events.filterMap Tick.of?

@[simp] theorem ticks_nil : ticks ([] : List (Event I Telemetry σ)) = [] := rfl

@[simp] theorem ticks_append (events later : List (Event I Telemetry σ)) :
    ticks (events ++ later) = ticks events ++ ticks later := List.filterMap_append

@[simp] theorem ticks_answered (question : I.Question) (answer : I.Answer question) (state : σ)
    (events : List (Event I Telemetry σ)) :
    ticks (.answered question answer state :: events) = ticks events := rfl

theorem ticks_told (note : Telemetry) (events : List (Event I Telemetry σ)) :
    ticks (.told note :: events) = (Tick.ofNote? note).toList ++ ticks events := by
  unfold ticks
  rw [List.filterMap_cons]
  cases tick : Tick.ofNote? note <;> simp [Tick.of?, tick]

/-- A larger interface hears the same. -/
theorem ticks_lift {question : I.Question → J.Question}
    {back : ∀ q, I.Answer q → J.Answer (question q)} (events : List (Event I Telemetry σ)) :
    ticks (events.map (.lift question back)) = ticks events := by
  have same : Tick.of? ∘ Event.lift question back =
      (Tick.of? : Event I Telemetry σ → Option Tick) := by
    funext e
    cases e <;> rfl
  rw [ticks, List.filterMap_map, same, ticks]

end Dialogue

namespace Metrics

variable {m : Metrics} {ticks : List Tick}

/-- What a meter that counts records shows. -/
def reading (m : Metrics) : Meter → Nat
  | .processed => m.processed
  | .failed => m.failed
  | .duplicate => m.duplicate
  | .deadLettered reason => m.deadLetteredFor reason
  | .retried => m.retried
  | .timed => m.timed
  | .consumerError | .consumerHealthy .. => 0

/-- A mark raises its own meter, and no other. -/
theorem reading_hear (note : Telemetry) (mark : Meter) :
    (m.hear note).reading mark =
      m.reading mark + (Tick.ofNote? note).toList.count (.marked mark) := by
  cases note with
  | log line =>
    simp only [Tick.ofNote?]
    split <;> simp [hear]
  | meter marked =>
    cases marked with
    | deadLettered reason =>
      cases mark with
      | deadLettered other =>
        by_cases same : reason = other
        · subst same
          simp [hear, Metrics.mark, reading, deadLetteredFor, Tick.ofNote?, Meter.countsRecords]
        · simp [hear, Metrics.mark, reading, deadLetteredFor, Tick.ofNote?, Meter.countsRecords,
            Readings.find?_change_of_ne (Ne.symm same), same]
      | _ => simp [hear, Metrics.mark, reading, Tick.ofNote?, Meter.countsRecords]
    | _ =>
      cases mark <;>
        simp [hear, Metrics.mark, reading, deadLetteredFor, Tick.ofNote?, Meter.countsRecords]

/-- **The meters show some ticks.** -/
def Shows (m : Metrics) (ticks : List Tick) : Prop :=
  ∀ mark, m.reading mark = ticks.count (.marked mark)

theorem shows_zero : zero.Shows [] := by
  intro mark
  cases mark <;> rfl

/-- **What is heard is shown.** -/
theorem Shows.hear (h : m.Shows ticks) (note : Telemetry) :
    (m.hear note).Shows (ticks ++ (Tick.ofNote? note).toList) := fun mark => by
  rw [reading_hear, h mark, List.count_append]

end Metrics

/-- **A letter has one reason**: the letters are the sum over all of these. -/
theorem countP_isLettered (ticks : List Tick) :
    ticks.countP Tick.isLettered =
      (Reason.all.map fun reason => ticks.count (.marked (.deadLettered reason))).sum := by
  induction ticks with
  | nil => rfl
  | cons tick ticks ih =>
    rw [List.countP_cons, ih]
    rcases tick with _ | ⟨_ | _ | _ | reason | _ | _ | _⟩ <;>
      simp [Tick.isLettered, Reason.all, List.count_cons]
    cases reason <;> simp <;> omega

end MessageIntake
