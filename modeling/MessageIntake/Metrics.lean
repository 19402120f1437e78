import MessageIntake.Telemetry
/-!
# Metrics

What the meters show after the marks that were made on them. Counts only grow; the health of
a worker is the last one that was noted. A label is there once it was touched.
-/

namespace MessageIntake

/-- **Labelled readings**, in the order in which the labels were first touched. -/
abbrev Readings (κ β : Type) := List (κ × β)

namespace Readings

variable {κ β : Type} [DecidableEq κ]

/-- The reading under a label. -/
def find? (readings : Readings κ β) (label : κ) : Option β :=
  (List.find? (fun entry => entry.1 = label) readings).map (·.2)

/-- The readings with one of them changed; a label that was not there starts from
`start`. -/
def change (label : κ) (start : β) (f : β → β) : Readings κ β → Readings κ β
  | [] => [(label, f start)]
  | (other, value) :: rest =>
    if other = label then (other, f value) :: rest
    else (other, value) :: change label start f rest

@[simp] theorem find?_change_self (label : κ) (start : β) (f : β → β)
    (readings : Readings κ β) :
    (readings.change label start f).find? label =
      some (f ((readings.find? label).getD start)) := by
  induction readings with
  | nil => simp [change, find?]
  | cons entry rest ih =>
    obtain ⟨other, value⟩ := entry
    by_cases h : other = label <;> simp_all [change, find?]

/-- Changing one reading leaves the others alone. -/
theorem find?_change_of_ne {label other : κ} (h : other ≠ label) (start : β) (f : β → β)
    (readings : Readings κ β) :
    (readings.change label start f).find? other = readings.find? other := by
  induction readings with
  | nil => simp [change, find?, h.symm]
  | cons entry rest ih =>
    obtain ⟨key, value⟩ := entry
    by_cases hk : key = label
    · simp [change, find?, hk, h.symm]
    · by_cases ho : key = other <;> simp_all [change, find?]

end Readings

/-- **What the meters show.** -/
structure Metrics where
  processed : Nat
  failed : Nat
  duplicate : Nat
  retried : Nat
  /-- The records of which the time was taken. -/
  timed : Nat
  consumerErrors : Nat
  deadLettered : Readings Reason Nat
  healthy : Readings Nat Bool

namespace Metrics

/-- Meters on which nothing was marked. -/
def zero : Metrics := ⟨0, 0, 0, 0, 0, 0, [], []⟩

/-- The letters that were published for a reason. -/
def deadLetteredFor (m : Metrics) (reason : Reason) : Nat :=
  (m.deadLettered.find? reason).getD 0

/-- The letters that were published, for whatever reason. -/
def deadLetteredTotal (m : Metrics) : Nat :=
  m.deadLettered.foldr (fun entry total => entry.2 + total) 0

/-- **The meters after a mark.** -/
def mark (m : Metrics) : Meter → Metrics
  | .processed => { m with processed := m.processed + 1 }
  | .failed => { m with failed := m.failed + 1 }
  | .duplicate => { m with duplicate := m.duplicate + 1 }
  | .deadLettered reason =>
    { m with deadLettered := m.deadLettered.change reason 0 (· + 1) }
  | .retried => { m with retried := m.retried + 1 }
  | .timed => { m with timed := m.timed + 1 }
  | .consumerError => { m with consumerErrors := m.consumerErrors + 1 }
  | .consumerHealthy worker healthy =>
    { m with healthy := m.healthy.change worker healthy fun _ => healthy }

/-- The meters after a piece of telemetry; a log line leaves them alone. -/
def hear (m : Metrics) : Telemetry → Metrics
  | .log _ => m
  | .meter mark => m.mark mark

end Metrics

end MessageIntake
