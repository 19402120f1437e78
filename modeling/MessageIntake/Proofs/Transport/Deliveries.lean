import Mathlib.Data.Finset.Card
import MessageIntake.Proofs.Transport.Histories
/-!
# Deliveries are counted exactly

What a delivery is to be answered can be counted in the history alone: it is the number of the
deliveries of its record, itself included, since the record was last acknowledged and since the
counts were last forgotten. Which records are counted is read off the history in the same way, so
that it can be said how many there are without a look at the tracker.

Main statement: a tracker answers every delivery with that number, and keeps a count of just those
records, which are never more than its limit, or one where the limit is zero
(`counts_every_delivery`).
-/

namespace MessageIntake.Transport

/-! ### Counting in a history -/

/-- The record that a call delivers. -/
def Call.delivers? : Call → Option RecordPlace
  | .deliver place => some place
  | _ => none

/-- **The open deliveries** of a record: those since it was last acknowledged. -/
def openDeliveries (place : RecordPlace) (history : History) : Nat :=
  (history.takeWhile (· ≠ .acknowledge place)).count (.deliver place)

/-- **The outstanding records**: those with an open delivery. -/
def outstanding (history : History) : Finset RecordPlace :=
  (history.filterMap Call.delivers?).toFinset.filter fun place => 0 < openDeliveries place history

section OpenDeliveries

variable {place other : RecordPlace} {call : Call} (earlier : History)

@[simp] theorem openDeliveries_deliver :
    openDeliveries place (.deliver place :: earlier) = openDeliveries place earlier + 1 := by
  simp [openDeliveries]

@[simp] theorem openDeliveries_acknowledge :
    openDeliveries place (.acknowledge place :: earlier) = 0 := by
  simp [openDeliveries]

/-- Other calls leave the open deliveries of a record as they are. -/
theorem openDeliveries_of_ne (noDelivery : call ≠ .deliver place)
    (noAcknowledgement : call ≠ .acknowledge place) :
    openDeliveries place (call :: earlier) = openDeliveries place earlier := by
  rw [openDeliveries, List.takeWhile_cons_of_pos (by simpa using noAcknowledgement),
    List.count_cons_of_ne noDelivery]
  rfl

theorem openDeliveries_le (history : History) :
    openDeliveries place history ≤ history.countP fun call => call.delivers?.isSome :=
  calc
    openDeliveries place history ≤ history.count (.deliver place) :=
      (List.takeWhile_sublist _).count_le _
    _ ≤ history.countP fun call => call.delivers?.isSome :=
      List.countP_mono_left fun call _ same => by
        rw [beq_iff_eq] at same
        rw [same]
        rfl

theorem mem_outstanding {history : History} :
    place ∈ outstanding history ↔ 0 < openDeliveries place history := by
  rw [outstanding, Finset.mem_filter, and_iff_right_iff_imp, List.mem_toFinset,
    List.mem_filterMap]
  intro counted
  have mem := (List.takeWhile_sublist _).subset (List.count_pos_iff.1 counted)
  exact ⟨_, mem, rfl⟩

end OpenDeliveries

namespace Tracker

/-- **What a tracker still counts** of a history: all since it last forgot, the delivery at which
it did included. -/
def sinceForgotten (limit : Nat) : History → History
  | [] => []
  | call :: earlier =>
    if ((empty limit).after earlier).forgets call then [call]
    else call :: sinceForgotten limit earlier

theorem sinceForgotten_of_forgets {limit : Nat} {call : Call} {earlier : History}
    (forgets : ((empty limit).after earlier).forgets call = true) :
    sinceForgotten limit (call :: earlier) = [call] := if_pos forgets

theorem sinceForgotten_of_not_forgets {limit : Nat} {call : Call} {earlier : History}
    (kept : ((empty limit).after earlier).forgets call = false) :
    sinceForgotten limit (call :: earlier) = call :: sinceForgotten limit earlier :=
  if_neg (Bool.eq_false_iff.1 kept)

/-- Where nothing is forgotten all is counted. -/
theorem Remembers.sinceForgotten_eq {limit : Nat} {history : History}
    (h : (empty limit).Remembers history) : sinceForgotten limit history = history := by
  induction history with
  | nil => rfl
  | cons call earlier ih => rw [sinceForgotten_of_not_forgets h.head, ih h.tail]

/-! ### The counts of a tracker -/

/-- **What is counted** are the open deliveries of a history, and nothing else. -/
structure Counts (attempts : Std.HashMap RecordPlace Nat) (recent : History) : Prop where
  getD_eq : ∀ place, attempts.getD place 0 = openDeliveries place recent
  mem_iff : ∀ place, place ∈ attempts ↔ 0 < openDeliveries place recent

variable {t : Tracker} {attempts : Std.HashMap RecordPlace Nat} {recent : History}

theorem counts_empty : Counts ∅ [] where
  getD_eq _ := Std.HashMap.getD_empty
  mem_iff _ := iff_of_false Std.HashMap.not_mem_empty (Nat.lt_irrefl 0)

/-- One more delivery. -/
theorem Counts.insert (h : Counts attempts recent) (place : RecordPlace) :
    Counts (attempts.insert place (attempts.getD place 0 + 1)) (.deliver place :: recent) where
  getD_eq other := by
    rw [Std.HashMap.getD_insert, h.getD_eq, h.getD_eq]
    by_cases same : place = other
    · subst same
      rw [if_pos (beq_self_eq_true _), openDeliveries_deliver]
    · rw [if_neg (by simpa using same), openDeliveries_of_ne _ (by simpa using same) (by simp)]
  mem_iff other := by
    rw [Std.HashMap.mem_insert, beq_iff_eq, h.mem_iff]
    by_cases same : place = other
    · subst same
      rw [openDeliveries_deliver]
      exact iff_of_true (.inl rfl) (Nat.succ_pos _)
    · rw [or_iff_right same, openDeliveries_of_ne _ (by simpa using same) (by simp)]

/-- An acknowledgement closes the deliveries of its record. -/
theorem Counts.erase (h : Counts attempts recent) (place : RecordPlace) :
    Counts (attempts.erase place) (.acknowledge place :: recent) where
  getD_eq other := by
    rw [Std.HashMap.getD_erase, h.getD_eq]
    by_cases same : place = other
    · subst same
      rw [if_pos (beq_self_eq_true _), openDeliveries_acknowledge]
    · rw [if_neg (by simpa using same), openDeliveries_of_ne _ (by simp) (by simpa using same)]
  mem_iff other := by
    rw [Std.HashMap.mem_erase, h.mem_iff, beq_eq_false_iff_ne]
    by_cases same : place = other
    · subst same
      rw [openDeliveries_acknowledge]
      exact iff_of_false (fun h => h.1 rfl) (Nat.lt_irrefl 0)
    · rw [and_iff_right same, openDeliveries_of_ne _ (by simp) (by simpa using same)]

/-- Other calls leave all counts as they are. -/
theorem Counts.skip (h : Counts attempts recent) {call : Call}
    (other : (∀ place, call ≠ .deliver place) ∧ ∀ place, call ≠ .acknowledge place) :
    Counts attempts (call :: recent) where
  getD_eq place := by rw [h.getD_eq, openDeliveries_of_ne _ (other.1 place) (other.2 place)]
  mem_iff place := by rw [h.mem_iff, openDeliveries_of_ne _ (other.1 place) (other.2 place)]

/-- **What one call preserves**: a tracker counts what it is asked, from where it last forgot. -/
theorem Counts.step (h : Counts t.attempts recent) (call : Call) :
    Counts (t.step call).attempts (if t.forgets call then [call] else call :: recent) := by
  cases call with
  | deliver place =>
    cases forgets : t.forgets (.deliver place) with
    | true =>
      -- the delivery is counted onto nothing
      have alone := counts_empty.insert place
      rw [Std.HashMap.getD_empty] at alone
      rw [if_pos rfl, (delivered_of_forgets forgets).2]
      exact alone
    | false =>
      rw [if_neg Bool.false_ne_true, (delivered_of_not_forgets forgets).2]
      exact h.insert place
  | acknowledge place => exact h.erase place
  | rewind | fetch | giveUp =>
    rw [attempts_step_of_ne t (by simp), forgets_of_ne t (by simp), if_neg Bool.false_ne_true]
    exact h.skip (by simp)

/-- **After a whole history** a tracker counts all since it last forgot. -/
theorem counts_after (limit : Nat) (history : History) :
    Counts ((empty limit).after history).attempts (sinceForgotten limit history) := by
  induction history with
  | nil => exact counts_empty
  | cons call earlier ih => exact ih.step call

/-- There are as many counts as outstanding records. -/
theorem Counts.size_eq (h : Counts attempts recent) :
    attempts.size = (outstanding recent).card := by
  have same : outstanding recent = attempts.keys.toFinset := by
    ext place
    rw [mem_outstanding, ← h.mem_iff, List.mem_toFinset, Std.HashMap.mem_keys]
  rw [same, List.toFinset_card_of_nodup Std.HashMap.nodup_keys, Std.HashMap.length_keys]

/-- A delivery is answered with the count that it leaves. -/
theorem delivered_eq (t : Tracker) (place : RecordPlace) :
    (t.delivered place).1 = (t.step (.deliver place)).attempts.getD place 0 :=
  Std.HashMap.getD_insert_self.symm

/-- No call brings a tracker beyond its limit, but one record is always counted. -/
theorem tracked_step_le (t : Tracker) (bounded : t.tracked ≤ max 1 t.limit) (call : Call) :
    (t.step call).tracked ≤ max 1 t.limit := by
  cases call with
  | deliver place =>
    cases forgets : t.forgets (.deliver place) with
    | true =>
      rw [tracked, (delivered_of_forgets forgets).2]
      calc
        _ ≤ (∅ : Std.HashMap RecordPlace Nat).size + 1 := Std.HashMap.size_insert_le
        _ = 1 := by rw [Std.HashMap.size_empty]
        _ ≤ max 1 t.limit := le_max_left _ _
    | false =>
      have room : t.tracked + 1 ≤ t.limit := tracked_lt_of_not_forgets forgets
      rw [tracked, (delivered_of_not_forgets forgets).2]
      calc
        _ ≤ t.tracked + 1 := Std.HashMap.size_insert_le
        _ ≤ t.limit := room
        _ ≤ max 1 t.limit := le_max_right _ _
  | acknowledge place => exact Std.HashMap.size_erase_le.trans bounded
  | rewind | fetch | giveUp =>
    rw [tracked, attempts_step_of_ne t (by simp)]
    exact bounded

theorem tracked_after_le (limit : Nat) (history : History) :
    ((empty limit).after history).tracked ≤ max 1 limit := by
  induction history with
  | nil => exact Nat.zero_le _
  | cons call earlier ih =>
    have same : ((empty limit).after earlier).limit = limit := limit_after _ earlier
    have bounded := tracked_step_le ((empty limit).after earlier) (same.symm ▸ ih) call
    rwa [same] at bounded

/-! ### Where the limit is not reached -/

/-- **A history leaves room** if at each of its deliveries fewer records than the limit are
outstanding. -/
def LeavesRoom (limit : Nat) (history : History) : Prop :=
  ∀ place earlier, .deliver place :: earlier <:+ history → (outstanding earlier).card < limit

theorem LeavesRoom.tail {limit : Nat} {call : Call} {earlier : History}
    (h : LeavesRoom limit (call :: earlier)) : LeavesRoom limit earlier :=
  fun place e suffix => h place e (suffix.trans (List.suffix_cons call earlier))

/-- **With room for every record** nothing is forgotten. -/
theorem LeavesRoom.remembers {limit : Nat} {history : History} (h : LeavesRoom limit history) :
    (empty limit).Remembers history := by
  induction history with
  | nil => exact remembers_nil _
  | cons call earlier ih =>
    refine (ih h.tail).cons ?_
    rw [Bool.eq_false_iff, ne_eq, forgets_iff]
    rintro ⟨⟨place, rfl⟩, full⟩
    have counts := counts_after limit earlier
    rw [(ih h.tail).sinceForgotten_eq] at counts
    rw [limit_after, tracked, counts.size_eq] at full
    exact Nat.not_le_of_lt (h place earlier (List.suffix_refl _)) full

/-- Just after an acknowledgement, or before anything was asked, a record has no count. -/
theorem attempts_of_closed {limit : Nat} {place : RecordPlace} {earlier : History}
    (closed : earlier = [] ∨ ∃ older, earlier = .acknowledge place :: older) :
    ((empty limit).after earlier).attempts.getD place 0 = 0 := by
  rcases closed with rfl | ⟨older, rfl⟩
  · exact Std.HashMap.getD_empty
  · exact Std.HashMap.getD_erase_self

/-! ### The counts are exact -/

/-- **Deliveries are counted exactly** over a history that a new tracker goes through. -/
structure CountsExactly (limit : Nat) (history : History) : Prop where
  /-- The next delivery is answered with the open deliveries of its record since the counts were
  last forgotten, itself included. -/
  answer : ∀ place, (((empty limit).after history).delivered place).1 =
    openDeliveries place (sinceForgotten limit (.deliver place :: history))
  /-- The counts are forgotten at the deliveries to a tracker that is full, and only there. -/
  forgets_iff : ∀ call, ((empty limit).after history).forgets call = true ↔
    (∃ place, call = .deliver place) ∧ limit ≤ ((empty limit).after history).tracked
  tracked_eq : ((empty limit).after history).tracked =
    (outstanding (sinceForgotten limit history)).card
  tracked_le : ((empty limit).after history).tracked ≤ max 1 limit
  /-- No answer exceeds the number of deliveries. -/
  answer_le : ∀ place, (((empty limit).after history).delivered place).1 ≤
    (Call.deliver place :: history).countP fun call => call.delivers?.isSome
  /-- With room for all records that are outstanding nothing is ever forgotten. -/
  remembers : LeavesRoom limit history → (empty limit).Remembers history
  /-- The deliveries of a record between two of its acknowledgements are then numbered
  `1, 2, 3, …`. -/
  numbered : LeavesRoom limit history → ∀ place since earlier, since ++ earlier <:+ history →
    (earlier = [] ∨ ∃ older, earlier = .acknowledge place :: older) →
    Call.acknowledge place ∉ since →
    ((empty limit).after earlier).answered place since =
      (List.range' 1 (since.count (.deliver place))).map fun attempt => (attempt, false)

theorem answer_eq (limit : Nat) (history : History) (place : RecordPlace) :
    (((empty limit).after history).delivered place).1 =
      openDeliveries place (sinceForgotten limit (.deliver place :: history)) := by
  rw [delivered_eq]
  exact (counts_after limit (.deliver place :: history)).getD_eq place

/-- What is still counted is part of the history. -/
theorem sinceForgotten_sublist (limit : Nat) (history : History) :
    (sinceForgotten limit history).Sublist history := by
  induction history with
  | nil => exact List.Sublist.refl _
  | cons call earlier ih =>
    cases forgets : ((empty limit).after earlier).forgets call with
    | true =>
      rw [sinceForgotten_of_forgets forgets]
      exact (List.nil_sublist earlier).cons_cons call
    | false =>
      rw [sinceForgotten_of_not_forgets forgets]
      exact ih.cons_cons call

/-- A part of a history in which nothing is forgotten. -/
theorem Remembers.of_append {since earlier : History} (h : t.Remembers (since ++ earlier)) :
    (t.after earlier).Remembers since := by
  intro call e suffix
  obtain ⟨front, rfl⟩ := suffix
  rw [← after_append]
  exact h call (e ++ earlier) ⟨front, by simp⟩

/-- **A tracker counts every delivery**, whatever it is asked and whatever its limit. -/
theorem counts_every_delivery (limit : Nat) (history : History) :
    CountsExactly limit history where
  answer place := answer_eq limit history place
  forgets_iff call := by
    rw [Tracker.forgets_iff, limit_after]
    rfl
  tracked_eq := (counts_after limit history).size_eq
  tracked_le := tracked_after_le limit history
  answer_le place := by
    rw [answer_eq]
    exact (openDeliveries_le _).trans ((sinceForgotten_sublist limit _).countP_le)
  remembers room := room.remembers
  numbered room place since earlier suffix closed kept := by
    have part : (empty limit).Remembers (since ++ earlier) := fun call e s =>
      room.remembers call e (s.trans suffix)
    rw [part.of_append.answered kept, attempts_of_closed closed]

/-- With a limit of two there is room for two records, of which the one that was acknowledged is
numbered from one again; a third one finds the tracker full. -/
theorem counts_of_two_records :
    let first : RecordPlace := ⟨"chat-messages", 0, 5⟩
    let second : RecordPlace := ⟨"chat-messages", 0, 6⟩
    let earlier : History := [.acknowledge first, .deliver second, .deliver first]
    LeavesRoom 2 (.deliver first :: earlier) ∧
      ((empty 2).after earlier).answered first [.deliver first] = [(1, false)] ∧
      ((empty 2).after (.deliver first :: earlier)).forgets
        (.deliver ⟨"chat-messages", 0, 7⟩) = true := by
  intro first second earlier
  have counts := counts_every_delivery 2 (.deliver first :: earlier)
  have room : LeavesRoom 2 (.deliver first :: earlier) := by
    intro place before suffix
    simp only [earlier, List.suffix_cons_iff, List.suffix_nil, List.cons.injEq] at suffix
    rcases suffix with ⟨-, rfl⟩ | ⟨⟨⟩, -⟩ | ⟨-, rfl⟩ | ⟨-, rfl⟩ | ⟨⟨⟩⟩
    all_goals decide +kernel
  refine ⟨room, ?_, (counts.forgets_iff _).2 ⟨⟨_, rfl⟩, ?_⟩⟩
  · exact counts.numbered room first [.deliver first] earlier (List.suffix_refl _)
      (.inr ⟨_, rfl⟩) (by decide)
  · rw [counts.tracked_eq, (counts.remembers room).sinceForgotten_eq]
    decide +kernel

end Tracker

end MessageIntake.Transport
