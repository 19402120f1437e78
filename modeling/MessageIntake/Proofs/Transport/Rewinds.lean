import MessageIntake.Proofs.Transport.Histories
/-!
# Nothing is delivered past a rewind

A rewind of a partition is *pending* from when it was asked for until the partition comes back to
its offset, is rewound elsewhere, or the rewind is given up. All of this is read off the history
of one partition, that is, of one number in one topic; what other partitions do, what is delivered
and what is acknowledged has no part in it.

Main statement: a record that is fetched is passed over just if its partition has a pending rewind
to an offset before it, and the first one of a rewound partition that is not lies at the offset of
the rewind or before it (`honours_every_rewind`).
-/

namespace MessageIntake.Transport

/-- **Two places share a partition**: their topic and the number of their partition. -/
def RecordPlace.SharesPartition (a b : RecordPlace) : Prop :=
  a.topic = b.topic ∧ a.partition = b.partition

instance (a b : RecordPlace) : Decidable (a.SharesPartition b) :=
  inferInstanceAs (Decidable (a.topic = b.topic ∧ a.partition = b.partition))

/-- A tracker tells partitions apart by their topic and number. -/
theorem RecordPlace.home_eq_iff {a b : RecordPlace} : a.home = b.home ↔ a.SharesPartition b := by
  simp [home, SharesPartition]

variable {place : RecordPlace} {offset : Int} {call : Call} {earlier : History}

/-! ### Rewinds in a history -/

namespace Call

/-- **A call is about the partition of a place.** -/
def Concerns (place : RecordPlace) : Call → Prop
  | .rewind other | .fetch other => other.SharesPartition place
  | .giveUp partition => partition = ⟨place.topic, place.partition⟩
  | .deliver _ | .acknowledge _ => False

/-- The offset to which a call rewinds the partition of a place. -/
def rewinds? (place : RecordPlace) : Call → Option Int
  | .rewind other => if other.SharesPartition place then some other.offset else none
  | _ => none

/-- **A call leaves the rewind to a place as it is**: it neither rewinds the partition again nor
gives its rewind up, nor fetches of it what lies at the offset or before it. -/
def Leaves (place : RecordPlace) : Call → Prop
  | .rewind other => ¬other.SharesPartition place
  | .fetch other => other.SharesPartition place → place.offset < other.offset
  | .giveUp partition => partition ≠ ⟨place.topic, place.partition⟩
  | .deliver _ | .acknowledge _ => True

/-- A call rewinds a partition just to the place of a record in it. -/
theorem rewinds?_eq_some_iff :
    call.rewinds? place = some offset ↔ call = .rewind { place with offset } := by
  cases call with
  | rewind other =>
    obtain ⟨topic, partition, last⟩ := other
    by_cases same : topic = place.topic ∧ partition = place.partition
    · simp [rewinds?, RecordPlace.SharesPartition, same]
    · simp [rewinds?, RecordPlace.SharesPartition, same, ← and_assoc]
  | deliver | acknowledge | fetch | giveUp => simp [rewinds?]

/-- A call about another partition, or about none, rewinds not this one. -/
theorem ne_rewind_of_not_concerns (apart : ¬call.Concerns place) :
    call ≠ .rewind { place with offset } := by
  rintro rfl
  exact apart ⟨rfl, rfl⟩

/-- It leaves every rewind of this one. -/
theorem leaves_of_not_concerns (apart : ¬call.Concerns place) (offset : Int) :
    call.Leaves { place with offset } := by
  cases call with
  | rewind other => exact apart
  | fetch other => exact fun same => absurd same apart
  | giveUp partition => exact apart
  | deliver | acknowledge => trivial

end Call

/-- **The rewind to a place is pending**: it was asked for, and since then all calls leave it. -/
def Pending (place : RecordPlace) (history : History) : Prop :=
  ∃ since earlier, history = since ++ .rewind place :: earlier ∧
    ∀ call ∈ since, call.Leaves place

theorem not_pending_nil : ¬Pending place [] := by
  rintro ⟨since, earlier, parts, -⟩
  simp at parts

/-- **What one call makes pending**: what it rewinds, and what was pending and is left. -/
theorem pending_cons_iff :
    Pending place (call :: earlier) ↔
      call = .rewind place ∨ Pending place earlier ∧ call.Leaves place := by
  constructor
  · rintro ⟨since, before, parts, left⟩
    cases since with
    | nil => exact .inl (List.cons.inj parts).1
    | cons c since =>
      obtain ⟨rfl, rfl⟩ := List.cons.inj parts
      refine .inr ⟨⟨since, before, rfl, ?_⟩, left call List.mem_cons_self⟩
      intro c mem
      exact left c (List.mem_cons_of_mem call mem)
  · rintro (rfl | ⟨⟨since, before, rfl, left⟩, leaves⟩)
    · exact ⟨[], earlier, rfl, List.forall_mem_nil _⟩
    · exact ⟨call :: since, before, rfl, List.forall_mem_cons.2 ⟨leaves, left⟩⟩

namespace Tracker

variable {t : Tracker}

/-! ### What a tracker keeps of rewinds -/

/-- **What one call does to the rewinds** that a tracker keeps. -/
theorem rewound_step_iff :
    (t.step call).rewound[place.home]? = some place.offset ↔
      call = .rewind place ∨ t.rewound[place.home]? = some place.offset ∧ call.Leaves place := by
  cases call with
  | deliver => simp [rewound_deliver, Call.Leaves]
  | acknowledge => simp [step, acknowledged, Call.Leaves]
  | rewind other =>
    simp only [step, rewoundTo, Std.HashMap.getElem?_insert, beq_iff_eq, RecordPlace.home_eq_iff,
      Call.Leaves, Call.rewind.injEq]
    obtain ⟨topic, partition, offset⟩ := other
    obtain ⟨topic', partition', offset'⟩ := place
    by_cases same : topic = topic' ∧ partition = partition'
    · simp [RecordPlace.SharesPartition, same]
    · simp [RecordPlace.SharesPartition, same, ← and_assoc]
  | giveUp partition =>
    simp only [step, clearRewind, Std.HashMap.getElem?_erase, beq_iff_eq, Call.Leaves]
    by_cases same : partition = ⟨place.topic, place.partition⟩
    · simp [same, RecordPlace.home]
    · simp [same, RecordPlace.home]
  | fetch other =>
    simp only [step, Call.Leaves, reduceCtorEq, false_or, ← RecordPlace.home_eq_iff]
    by_cases same : other.home = place.home
    · rcases staleRewind_cases t other with
        ⟨eq, none⟩ | ⟨expected, found, ⟨reached, eq⟩ | ⟨behind, eq⟩⟩
      · simp [eq, ← same, none]
      · have ended : expected = place.offset → other.offset ≤ place.offset :=
          fun eq => eq ▸ reached
        simpa [eq, ← same, found] using ended
      · have kept : expected = place.offset → place.offset < other.offset :=
          fun eq => eq ▸ behind
        simpa [eq, ← same, found] using kept
    · rcases staleRewind_cases t other with ⟨eq, -⟩ | ⟨_, -, ⟨-, eq⟩ | ⟨-, eq⟩⟩
      all_goals simp [eq, same, Std.HashMap.getElem?_erase]

/-- **After a whole history** the rewinds that a tracker keeps are the pending ones. -/
theorem rewound_eq_some_iff (limit : Nat) (history : History) :
    ((empty limit).after history).rewound[place.home]? = some place.offset ↔
      Pending place history := by
  induction history with
  | nil => exact iff_of_false (by simp [empty]) not_pending_nil
  | cons call earlier ih => rw [after_cons, rewound_step_iff, pending_cons_iff, ih]

theorem staleRewind_eq_some_iff :
    (t.staleRewind place).1 = some offset ↔
      t.rewound[place.home]? = some offset ∧ offset < place.offset := by
  rcases staleRewind_cases t place with
    ⟨eq, none⟩ | ⟨expected, found, ⟨reached, eq⟩ | ⟨behind, eq⟩⟩
  · simp [eq, none]
  · simp only [eq, found, Option.some.injEq, reduceCtorEq, false_iff, not_and, Int.not_lt]
    rintro rfl
    exact reached
  · simp only [eq, found, Option.some.injEq, iff_self_and]
    rintro rfl
    exact behind

/-- Trackers that keep the same rewind of a partition answer its fetches alike. -/
theorem staleRewind_congr {t' : Tracker} (same : t.rewound[place.home]? = t'.rewound[place.home]?) :
    (t.staleRewind place).1 = (t'.staleRewind place).1 := by
  ext offset
  rw [staleRewind_eq_some_iff, staleRewind_eq_some_iff, same]

/-- What one call does to the rewind of a partition, by its offset. -/
theorem rewound_step_offset_iff :
    (t.step call).rewound[place.home]? = some offset ↔
      call = .rewind { place with offset } ∨
        t.rewound[place.home]? = some offset ∧ call.Leaves { place with offset } :=
  @rewound_step_iff { place with offset } call t

/-- A call about another partition keeps the rewind of this one. -/
theorem rewound_step_of_not_concerns (apart : ¬call.Concerns place) :
    (t.step call).rewound[place.home]? = t.rewound[place.home]? := by
  ext offset
  rw [rewound_step_offset_iff]
  simp [Call.ne_rewind_of_not_concerns apart, Call.leaves_of_not_concerns apart offset]

/-- Trackers that keep the same rewind of a partition go on to do so. -/
theorem rewound_after_congr {t' : Tracker} (same : t.rewound[place.home]? = t'.rewound[place.home]?)
    (since : History) :
    (t.after since).rewound[place.home]? = (t'.after since).rewound[place.home]? := by
  induction since with
  | nil => exact same
  | cons call since ih =>
    ext offset
    rw [after_cons, after_cons, rewound_step_offset_iff, rewound_step_offset_iff, ih]

/-! ### A stream of fetched records -/

/-- The record that a call fetches of the partition of a place, unless it is passed over. -/
def passes? (t : Tracker) (place : RecordPlace) : Call → Option RecordPlace
  | .fetch other =>
    if other.SharesPartition place ∧ (t.staleRewind other).1 = none then some other else none
  | _ => none

/-- **The records of the partition of a place that come through**, of all that a history fetches,
the newest first. -/
def passed (t : Tracker) (place : RecordPlace) : History → List RecordPlace
  | [] => []
  | call :: earlier => ((t.after earlier).passes? place call).toList ++ t.passed place earlier

/-- While nothing comes through, the partition stays rewound to where it was rewound last. -/
theorem rewound_of_passed_eq_nil (rewound : t.rewound[place.home]? = some offset) {since : History}
    (kept : Call.giveUp ⟨place.topic, place.partition⟩ ∉ since)
    (nothing : t.passed place since = []) :
    (t.after since).rewound[place.home]? =
      some ((since.findSome? (Call.rewinds? place)).getD offset) := by
  induction since with
  | nil => exact rewound
  | cons call since ih =>
    obtain ⟨now, before⟩ := List.append_eq_nil_iff.1 nothing
    rw [List.mem_cons, not_or] at kept
    have before := ih kept.2 before
    rw [after_cons, rewound_step_offset_iff, List.findSome?_cons]
    cases rewinds : call.rewinds? place with
    | some again => exact .inl (Call.rewinds?_eq_some_iff.1 rewinds)
    | none =>
      refine .inr ⟨before, ?_⟩
      cases call with
      | deliver | acknowledge => trivial
      | rewind other =>
        intro here
        simp [Call.rewinds?, show other.SharesPartition place from here] at rewinds
      | giveUp partition => exact fun same => kept.1 (congrArg Call.giveUp same.symm)
      | fetch other =>
        intro here
        -- the record was passed over, and that only for the rewind that is kept
        replace here : other.SharesPartition place := here
        cases answer : ((t.after since).staleRewind other).1 with
        | none => simp [passes?, here, answer] at now
        | some expected =>
          obtain ⟨same, behind⟩ := staleRewind_eq_some_iff.1 answer
          rw [RecordPlace.home_eq_iff.2 here, before] at same
          cases same
          exact behind

/-! ### Rewinds are honoured -/

/-- **Rewinds are honoured** over a history that a new tracker goes through. -/
structure HonoursRewinds (limit : Nat) (history : History) : Prop where
  /-- A record is passed over just for a pending rewind of its partition to an offset before it. -/
  answer_iff : ∀ (place : RecordPlace) (offset : Int),
    (((empty limit).after history).staleRewind place).1 = some offset ↔
      Pending ⟨place.topic, place.partition, offset⟩ history ∧ offset < place.offset
  /-- The first record that comes through after a rewind that is not given up lies at the offset
  of the rewind, or before it; where the partition was rewound again since, it is the later rewind
  that counts. -/
  first_le : ∀ (rewind : RecordPlace) (since : History) (first : RecordPlace),
    Call.giveUp ⟨rewind.topic, rewind.partition⟩ ∉ since →
    ((empty limit).after (.rewind rewind :: history)).passed rewind since = [] →
    first.SharesPartition rewind →
    (((empty limit).after (since ++ .rewind rewind :: history)).staleRewind first).1 = none →
    first.offset ≤ (since.findSome? (Call.rewinds? rewind)).getD rewind.offset
  /-- Whatever was pending, a rewind takes its place. -/
  replaces : ∀ (rewind place : RecordPlace), place.SharesPartition rewind →
    (((empty limit).after (.rewind rewind :: history)).staleRewind place).1 =
      if rewind.offset < place.offset then some rewind.offset else none
  /-- Deliveries, acknowledgements and what is asked of other partitions make no difference to
  what is answered later. -/
  apart : ∀ (since : History) (call : Call) (place : RecordPlace), ¬call.Concerns place →
    (((empty limit).after (since ++ call :: history)).staleRewind place).1 =
      (((empty limit).after (since ++ history)).staleRewind place).1

/-- **A tracker honours every rewind**, whatever it is asked and whatever its limit. -/
theorem honours_every_rewind (limit : Nat) (history : History) :
    HonoursRewinds limit history where
  answer_iff place offset := by
    have kept := @rewound_eq_some_iff { place with offset } limit history
    rw [staleRewind_eq_some_iff]
    exact and_congr_left fun _ => kept
  first_le rewind since first kept nothing here comes := by
    have start : ((empty limit).after (.rewind rewind :: history)).rewound[rewind.home]? =
        some rewind.offset := rewound_step_iff.2 (.inl rfl)
    have last := rewound_of_passed_eq_nil start kept nothing
    rw [← after_append, ← RecordPlace.home_eq_iff.2 here] at last
    rw [← Int.not_lt]
    intro behind
    have answer := staleRewind_eq_some_iff.2 ⟨last, behind⟩
    rw [comes] at answer
    cases answer
  replaces rewind place here := by
    have rewound : ((empty limit).after (.rewind rewind :: history)).rewound[place.home]? =
        some rewind.offset := by
      rw [RecordPlace.home_eq_iff.2 here]
      exact rewound_step_iff.2 (.inl rfl)
    ext offset
    rw [staleRewind_eq_some_iff, rewound]
    by_cases behind : rewind.offset < place.offset
    · simp only [if_pos behind, Option.some.injEq, and_iff_left_iff_imp]
      rintro rfl
      exact behind
    · simp only [if_neg behind, Option.some.injEq, reduceCtorEq, iff_false, not_and]
      rintro rfl
      exact behind
  apart since call place other := by
    rw [after_append, after_append]
    exact staleRewind_congr (rewound_after_congr (rewound_step_of_not_concerns other) since)

/-- What was fetched ahead of a rewind to offset 10 is passed over until that offset, or one before
it, comes back. -/
theorem rewound_offset_comes_first :
    let place (partition offset : Int) : RecordPlace := ⟨"chat-messages", partition, offset⟩
    let history : History := [.rewind (place 2 10), .fetch (place 2 12)]
    let since : History := [.fetch (place 3 11), .deliver (place 2 11), .fetch (place 2 11)]
    (((empty 0).after history).staleRewind (place 2 11)).1 = some 10 ∧
      (((empty 0).after history).staleRewind (place 3 11)).1 = none ∧
      ∀ offset, (((empty 0).after (since ++ history)).staleRewind (place 2 offset)).1 = none →
        offset ≤ 10 := by
  intro place history since
  have honours := honours_every_rewind 0 [.fetch (place 2 12)]
  have stale : (((empty 0).after history).staleRewind (place 2 11)).1 = some 10 :=
    honours.replaces (place 2 10) (place 2 11) ⟨rfl, rfl⟩
  have other : ¬(place 3 11).SharesPartition (place 2 10) := by decide
  have free : (((empty 0).after history).staleRewind (place 3 11)).1 = none := by
    refine Option.eq_none_iff_forall_ne_some.2 fun offset answer => ?_
    obtain ⟨⟨since, earlier, parts, -⟩, -⟩ :=
      ((honours_every_rewind 0 history).answer_iff (place 3 11) offset).1 answer
    have mem : Call.rewind (place 3 offset) ∈ since ++ .rewind (place 3 offset) :: earlier :=
      List.mem_append_right _ List.mem_cons_self
    rw [← parts] at mem
    simp [history, place] at mem
  have nothing : ((empty 0).after history).passed (place 2 10) since = [] := by
    simp [since, passed, passes?, other, after, step, stale]
  refine ⟨stale, free, ?_⟩
  intro offset comes
  exact honours.first_le (place 2 10) since (place 2 offset) (by decide) nothing ⟨rfl, rfl⟩ comes

end Tracker

end MessageIntake.Transport
