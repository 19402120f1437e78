import MessageIntake.Proofs.Dispatch.Verdict
import MessageIntake.Proofs.Metrics.Ticks
/-!
# What a dispatch marks

What a dispatch tells the meters, and what it has done by then that they are to count: a message
was inserted, or a letter was recorded.

Main statement: the ticks of a dispatch, its letters and its inserts all follow from how the record
is to be settled (`marked_of_dispatch`).
-/

namespace MessageIntake

namespace Dispatch

open Dialogue (Passage passage_done_iff passage_tell_iff passage_ask_iff passage_bind_iff ticks
  ticks_told ticks_append ticks_answered)

variable {σ : Type}

/-! ### Lines that are no ticks -/

/-- A line of another level than that of stages is no tick. -/
theorem ofNote?_line {level : LogLevel} (other : level ≠ .trace) (message : String)
    (fields : List (String × String)) : Tick.ofNote? (.line level message fields) = none := by
  simp [Tick.ofNote?, Telemetry.line, moveLine, other]

/-- So it says nothing. -/
theorem ticks_line {I : Interface} {level : LogLevel} (other : level ≠ .trace) (message : String)
    (fields : List (String × String)) (events : List (Dialogue.Event I Telemetry σ)) :
    ticks (.told (.line level message fields) :: events) = ticks events := by
  rw [ticks_told, ofNote?_line other]
  rfl

@[simp] theorem ofNote?_begun : Tick.ofNote? (moveLine .received .reading) = some .begun := by
  decide

@[simp] theorem ofNote?_accepting : Tick.ofNote? (moveLine .reading .accepting) = none := by
  decide

@[simp] theorem ofNote?_storing : Tick.ofNote? (moveLine .accepting .storing) = none := by
  decide

/-! ### Inserts -/

/-- In this event a message was inserted. -/
def isInserted : Event σ → Bool
  | .answered (.store (.insert _)) (.ok _) _ => true
  | _ => false

/-- **How many messages were inserted.** -/
def inserted (events : List (Event σ)) : Nat := events.countP isInserted

@[simp] theorem inserted_nil : inserted ([] : List (Event σ)) = 0 := rfl

@[simp] theorem inserted_append (events later : List (Event σ)) :
    inserted (events ++ later) = inserted events + inserted later := List.countP_append

@[simp] theorem inserted_told (note : Telemetry) (events : List (Event σ)) :
    inserted (.told note :: events) = inserted events := rfl

theorem inserted_cons (e : Event σ) (events : List (Event σ)) :
    inserted (e :: events) = inserted events + if isInserted e then 1 else 0 := List.countP_cons

/-- How many new messages there are in what storing an event came to. -/
def newRows {ε : Type} : Except ε Outcome → Nat
  | .ok outcome => if outcome.duplicate then 0 else 1
  | .error _ => 0

variable {W : World api σ} {s s' : σ} {policy : RetryPolicy} {record : Record}
  {event : AcceptedEvent}

section

variable {V : World Store.api σ} {events : List (Dialogue.Event Store.api Telemetry σ)}

/-- **What storing an event does**: it ticks nothing, and has inserted what it says is new. -/
def Inserts (events : List (Dialogue.Event Store.api Telemetry σ)) (r : Except Failure Outcome) :
    Prop :=
  ticks events = [] ∧ inserted (events.map ofStore) = newRows r

/-- Looking for an event inserts nothing. -/
theorem of_looks {found : Except Failure (Option Message)}
    (h : Passage V (Persistence.findExisting event) s events found s') :
    ticks events = [] ∧ inserted (events.map ofStore) = 0 := by
  obtain ⟨a, mid, later, rfl, -, rest⟩ := passage_ask_iff.1 h
  match a with
  | .error failure | .ok (some x) =>
    obtain ⟨rfl, rfl, rfl⟩ := passage_done_iff.1 rest
    exact ⟨rfl, rfl⟩
  | .ok none =>
    cases carried : event.clientMsgId with
    | none =>
      simp only [carried] at rest
      obtain ⟨rfl, rfl, rfl⟩ := passage_done_iff.1 rest
      exact ⟨rfl, rfl⟩
    | some id =>
      simp only [carried] at rest
      obtain ⟨a, next, later, rfl, -, ends⟩ := passage_ask_iff.1 rest
      obtain ⟨rfl, rfl, rfl⟩ := passage_done_iff.1 ends
      exact ⟨rfl, rfl⟩

/-- A round inserts what it says, or leaves that to what follows. -/
theorem inserts_of_round {refused : Failure → Persistence.Talk Outcome}
    (follows : ∀ failure s events r s', Passage V (refused failure) s events r s' →
      Inserts events r)
    {r : Except Failure Outcome} (h : Passage V (Persistence.round event refused) s events r s') :
    Inserts events r := by
  obtain ⟨first, second, found, mid, rfl, looked, rest⟩ := passage_bind_iff.1 h
  obtain ⟨unticked, uninserted⟩ := of_looks looked
  unfold Inserts
  rw [List.map_append, ticks_append, inserted_append, unticked, uninserted, List.nil_append,
    Nat.zero_add]
  match found with
  | .error failure =>
    obtain ⟨rfl, rfl, rfl⟩ := passage_done_iff.1 rest
    exact ⟨rfl, rfl⟩
  | .ok (some row) =>
    obtain ⟨later, rfl, noted⟩ := passage_tell_iff.1 rest
    obtain ⟨rfl, rfl, rfl⟩ := passage_done_iff.1 noted
    exact ⟨ticks_line (by decide) .., rfl⟩
  | .ok none =>
    obtain ⟨a, next, later, rfl, -, refusing⟩ := passage_ask_iff.1 rest
    match a with
    | .ok message =>
      obtain ⟨later, rfl, noted⟩ := passage_tell_iff.1 refusing
      obtain ⟨rfl, rfl, rfl⟩ := passage_done_iff.1 noted
      exact ⟨(ticks_answered ..).trans (ticks_line (by decide) ..), rfl⟩
    | .error failure =>
      obtain ⟨none, new⟩ := follows _ _ _ _ _ refusing
      refine ⟨none, ?_⟩
      simpa [inserted, isInserted, ofStore, Dialogue.Event.lift] using new

/-- **Storing an event** inserts what it says is new. -/
theorem inserts_of_rounds (relookups left : Nat) {r : Except Failure Outcome}
    (h : Passage V (Persistence.rounds event relookups left) s events r s') :
    Inserts events r := by
  -- on the rounds that are left, as an insert that was refused leaves it to the next of them
  induction left generalizing relookups s events r s' with
  | zero =>
    refine inserts_of_round (fun failure s events r s' h => ?_) h
    obtain ⟨rfl, rfl, rfl⟩ := passage_done_iff.1 h
    exact ⟨rfl, rfl⟩
  | succ left ih =>
    refine inserts_of_round (fun failure s events r s' h => ?_) h
    split at h
    · obtain ⟨later, rfl, noted⟩ := passage_tell_iff.1 h
      obtain ⟨none, new⟩ := ih _ noted
      exact ⟨(ticks_line (by decide) ..).trans none, new⟩
    · obtain ⟨rfl, rfl, rfl⟩ := passage_done_iff.1 h
      exact ⟨rfl, rfl⟩

end

/-! ### Settling -/

/-- **The marks of a dispatch**, by how the record is to be settled, its time left out. -/
def marksOf : Disposition → List Meter
  | .acked outcome => .processed :: if outcome.duplicate then [.duplicate] else []
  | .deadLettered reason .. => [.failed, .deadLettered reason]
  | .retry .. => [.failed, .retried]

/-- How many new messages a settled record has brought. -/
def rowsOf : Disposition → Nat
  | .acked outcome => if outcome.duplicate then 0 else 1
  | .deadLettered .. | .retry .. => 0

/-- **What was marked and done**: the ticks, a letter for each reason as often as it was marked, and
the inserts. -/
structure Marked (events : List (Event σ)) (marked : List Tick) (disposition : Disposition)
    (rows : Nat) : Prop where
  ticks : ticks events = marked
  letters : ∀ reason, (letters events).countP (·.failureReason = reason) =
    (marksOf disposition).count (.deadLettered reason)
  inserted : inserted events = rows

variable {events : List (Event σ)} {disposition : Disposition}

theorem Postpones.marked {attempt : Nat} {reason : Reason}
    (h : Postpones W policy attempt reason s events disposition s') :
    Marked events [.marked .retried] disposition 0 ∧
      marksOf disposition = [.failed, .retried] ∧ rowsOf disposition = 0 := by
  cases h with
  | drawn | even => exact ⟨⟨rfl, fun _ => rfl, rfl⟩, rfl, rfl⟩

theorem Rejects.marked {failureClass : FailureClass} {reason : Reason} {detail : String}
    {attempt : Nat}
    (h : Rejects W policy record failureClass reason detail attempt s events disposition s') :
    ∃ marked, Marked events marked disposition 0 ∧
      .marked .failed :: marked = (marksOf disposition).map .marked ∧ rowsOf disposition = 0 := by
  cases h with
  | published now written publish =>
    refine ⟨[.marked (.deadLettered reason)], ⟨rfl, fun other => ?_, rfl⟩, rfl, rfl⟩
    by_cases same : reason = other <;>
      simp [letters_cons, letter?, written, Letter.ofRecord, marksOf, same]
  | refused now written publish left =>
    obtain ⟨⟨ticked, lettered, rows⟩, marks, new⟩ := left.marked
    refine ⟨[.marked .retried], ⟨?_, lettered, ?_⟩, by rw [marks]; rfl, new⟩
    · rw [ticks_answered, ticks_answered]
      exact (ticks_line (by decide) ..).trans ticked
    · simpa [inserted_cons, isInserted] using rows

/-- The line of a failure is no tick. -/
theorem ofNote?_failureLine (policy : RetryPolicy) (record : Record) (stage : Stage)
    (failure : Failure) : Tick.ofNote? (failureLine policy record stage failure) = none := by
  unfold failureLine
  split
  · exact ofNote?_line (by decide) ..
  · split <;> exact ofNote?_line (by decide) ..

/-- **Settling what came of the pipeline** marks how the record is to be settled. -/
theorem Concludes.marked {result : Except (Stage × Failure) Outcome}
    (h : Concludes W policy record s result events disposition s') :
    Marked events ((marksOf disposition).map .marked) disposition 0 ∧
      newRows result = rowsOf disposition := by
  -- a failure is marked first, and its line marks nothing
  have failed {stage : Stage} {failure : Failure} {later : List (Event σ)} {marked : List Tick}
      (h : Marked later marked disposition 0)
      (marks : .marked .failed :: marked = (marksOf disposition).map .marked) :
      Marked (.told (.meter .failed) :: .told (failureLine policy record stage failure) :: later)
        ((marksOf disposition).map .marked) disposition 0 := by
    refine ⟨?_, h.letters, h.inserted⟩
    rw [ticks_told, ticks_told, ofNote?_failureLine, h.ticks, ← marks]
    rfl
  cases h with
  | stored outcome =>
    obtain ⟨message, duplicate⟩ := outcome
    cases duplicate <;> exact ⟨⟨rfl, fun _ => rfl, rfl⟩, rfl⟩
  | final final rejects =>
    obtain ⟨marked, holds, marks, new⟩ := rejects.marked
    exact ⟨failed holds marks, new.symm⟩
  | further further postpones =>
    obtain ⟨holds, marks, new⟩ := postpones.marked
    exact ⟨failed holds (by rw [marks]; rfl), new.symm⟩

/-- **The pipeline** begins the dispatch, and has inserted what it says is new. -/
theorem Pipes.marked {result : Except (Stage × Failure) Outcome}
    (h : Pipes W record s events result s') :
    ticks events = [.begun] ∧ inserted events = newRows result := by
  cases h with
  | unread =>
    rw [ticks_told, ofNote?_begun]
    exact ⟨rfl, rfl⟩
  | unaccepted =>
    rw [ticks_told, ofNote?_begun, ticks_told, ofNote?_accepting]
    exact ⟨rfl, rfl⟩
  | @persisted _ _ _ own stored _ _ read now accept passage =>
    obtain ⟨unticked, inserts⟩ := inserts_of_rounds _ _ passage
    have same : newRows (stored.mapError fun failure => (Stage.storing, failure)) =
        newRows stored := by
      cases stored <;> rfl
    rw [ticks_told, ofNote?_begun, ticks_told, ofNote?_accepting, ticks_answered, ticks_told,
      ofNote?_storing, same, inserted_told, inserted_told]
    exact ⟨congrArg (Tick.begun :: ·) ((Dialogue.ticks_lift own).trans unticked), inserts⟩

/-- **What a dispatch marks** follows from how the record is to be settled. -/
theorem marked_of_dispatch (h : Passage W (dispatch policy record) s events disposition s') :
    Marked events (.begun :: (marksOf disposition ++ [Meter.timed]).map .marked) disposition
      (rowsOf disposition) := by
  obtain ⟨piped, settled, result, mid, rfl, pipeline, concludes⟩ := course_of_dispatch h
  have pipes := pipes_of_pipeline pipeline
  obtain ⟨begun, inserts⟩ := pipes.marked
  obtain ⟨⟨ticked, lettered, none⟩, new⟩ := concludes.marked
  refine ⟨?_, fun reason => ?_, ?_⟩
  · rw [ticks_append, ticks_append, begun, ticked, ticks_told, dispatchedLine,
      ticks_line (by decide), List.map_append]
    rfl
  · rw [letters_append, letters_append, pipes.quiet.1, letters_told, letters_told, letters_nil,
      List.append_nil, List.nil_append, lettered]
  · rw [inserted_append, inserted_append, inserts, none, new, inserted_told, inserted_told]
    rfl

end Dispatch

end MessageIntake
