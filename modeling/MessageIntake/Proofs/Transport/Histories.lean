import MessageIntake.Transport.Tracker
/-!
# What a tracker was asked

A tracker answers from what it keeps; what it has to answer is said of all that it was asked
before. A *history* lists that, newest first, and a tracker goes through one call by call.

Of what a tracker keeps, the counts change with deliveries and acknowledgements only, and the
rewinds with rewinds, fetches and their giving up only.
-/

namespace MessageIntake.Transport

/-- **What is asked of a tracker.** -/
inductive Call where
  /-- A record is delivered. -/
  | deliver (place : RecordPlace)
  /-- A record was acknowledged. -/
  | acknowledge (place : RecordPlace)
  /-- A partition was rewound to a record. -/
  | rewind (place : RecordPlace)
  /-- A record was fetched and may lie behind a rewind. -/
  | fetch (place : RecordPlace)
  /-- The rewind of a partition is given up. -/
  | giveUp (partition : PartitionPlace)
  deriving DecidableEq

/-- All that was asked of a tracker, newest first. -/
abbrev History := List Call

namespace Tracker

/-- The tracker after a call. -/
def step (t : Tracker) : Call → Tracker
  | .deliver place => (t.delivered place).2.1
  | .acknowledge place => t.acknowledged place
  | .rewind place => t.rewoundTo place
  | .fetch place => (t.staleRewind place).2
  | .giveUp partition => t.clearRewind partition

/-- **The tracker after a history** that it went through. -/
def after (t : Tracker) : History → Tracker
  | [] => t
  | call :: earlier => (t.after earlier).step call

variable (t : Tracker) {call : Call}

@[simp] theorem after_nil : t.after [] = t := rfl

@[simp] theorem after_cons (call : Call) (earlier : History) :
    t.after (call :: earlier) = (t.after earlier).step call := rfl

theorem after_append (since earlier : History) :
    t.after (since ++ earlier) = (t.after earlier).after since := by
  induction since with
  | nil => rfl
  | cons call since ih => rw [List.cons_append, after_cons, ih, after_cons]

/-! ### What a call leaves as it is -/

/-- What a fetch changes of a tracker. -/
theorem staleRewind_cases (place : RecordPlace) :
    t.staleRewind place = (none, t) ∧ t.rewound[place.home]? = none ∨
      ∃ expected, t.rewound[place.home]? = some expected ∧
        (place.offset ≤ expected ∧
            t.staleRewind place = (none, { t with rewound := t.rewound.erase place.home }) ∨
          expected < place.offset ∧ t.staleRewind place = (some expected, t)) := by
  cases found : t.rewound[place.home]? with
  | none => exact .inl ⟨staleRewind_of_not_mem found, rfl⟩
  | some expected =>
    refine .inr ⟨expected, rfl, ?_⟩
    rcases Int.lt_or_le expected place.offset with behind | reached
    · exact .inr ⟨behind, by simp [staleRewind, found, Int.not_le.2 behind]⟩
    · exact .inl ⟨reached, by simp [staleRewind, found, reached]⟩

theorem staleRewind_attempts (place : RecordPlace) :
    (t.staleRewind place).2.attempts = t.attempts ∧ (t.staleRewind place).2.limit = t.limit := by
  rcases staleRewind_cases t place with ⟨eq, -⟩ | ⟨_, -, ⟨-, eq⟩ | ⟨-, eq⟩⟩
  · rw [eq]
    exact ⟨rfl, rfl⟩
  · rw [eq]
    exact ⟨rfl, rfl⟩
  · rw [eq]
    exact ⟨rfl, rfl⟩

/-- Only deliveries and acknowledgements change the counts. -/
theorem attempts_step_of_ne (other : (∀ place, call ≠ .deliver place) ∧
    ∀ place, call ≠ .acknowledge place) : (t.step call).attempts = t.attempts := by
  cases call with
  | deliver place => exact absurd rfl (other.1 place)
  | acknowledge place => exact absurd rfl (other.2 place)
  | fetch place => exact (staleRewind_attempts t place).1
  | rewind | giveUp => rfl

theorem attempts_acknowledge (place : RecordPlace) :
    (t.step (.acknowledge place)).attempts = t.attempts.erase place := rfl

/-- Deliveries and acknowledgements change no rewind. -/
theorem rewound_deliver (place : RecordPlace) :
    (t.step (.deliver place)).rewound = t.rewound := by
  simp only [step, delivered]
  split
  · rfl
  · rfl

@[simp] theorem limit_step (call : Call) : (t.step call).limit = t.limit := by
  cases call with
  | deliver place =>
    simp only [step, delivered]
    split
    · rfl
    · rfl
  | fetch place => exact (staleRewind_attempts t place).2
  | acknowledge | rewind | giveUp => rfl

@[simp] theorem limit_after (history : History) : (t.after history).limit = t.limit := by
  induction history with
  | nil => rfl
  | cons call earlier ih => rw [after_cons, limit_step, ih]

/-! ### Forgetting -/

/-- **The tracker forgets its counts** at a call, and says so. -/
def forgets (t : Tracker) : Call → Bool
  | .deliver place => !(t.delivered place).2.2.isEmpty
  | _ => false

theorem forgets_deliver (place : RecordPlace) : t.forgets (.deliver place) = t.isFull := by
  simp only [forgets, delivered]
  cases t.isFull with
  | true => rfl
  | false => rfl

theorem forgets_of_ne (noDelivery : ∀ place, call ≠ .deliver place) : t.forgets call = false := by
  cases call with
  | deliver place => exact absurd rfl (noDelivery place)
  | acknowledge | rewind | fetch | giveUp => rfl

theorem isFull_iff : t.isFull = true ↔ t.limit ≤ t.tracked := decide_eq_true_iff

/-- **A full tracker forgets** at the next delivery, and at nothing else. -/
theorem forgets_iff :
    t.forgets call = true ↔ (∃ place, call = .deliver place) ∧ t.limit ≤ t.tracked := by
  cases call with
  | deliver place => simp [forgets_deliver, isFull_iff]
  | acknowledge | rewind | fetch | giveUp => simp [forgets]

variable {t} {place : RecordPlace}

/-- A delivery to a full tracker is the only one that it counts. -/
theorem delivered_of_forgets (forgets : t.forgets (.deliver place) = true) :
    (t.delivered place).1 = 1 ∧
      (t.step (.deliver place)).attempts = (∅ : Std.HashMap RecordPlace Nat).insert place 1 := by
  rw [forgets_deliver] at forgets
  simp [step, delivered, forgets, forget]

/-- Any other delivery is counted with those before it. -/
theorem delivered_of_not_forgets (kept : t.forgets (.deliver place) = false) :
    (t.delivered place).1 = t.attempts.getD place 0 + 1 ∧
      (t.step (.deliver place)).attempts =
        t.attempts.insert place (t.attempts.getD place 0 + 1) := by
  rw [forgets_deliver] at kept
  simp [step, delivered, kept]

/-- A delivery that is not forgotten finds room. -/
theorem tracked_lt_of_not_forgets (kept : t.forgets (.deliver place) = false) :
    t.tracked < t.limit := by
  rw [forgets_deliver, Bool.eq_false_iff, ne_eq, isFull_iff] at kept
  exact Nat.lt_of_not_le kept

/-! ### Answers to deliveries -/

/-- **What the deliveries of a record were answered**, in their order: which one each of them is,
and whether the tracker forgot its counts for it. -/
def answered (t : Tracker) (place : RecordPlace) : History → List (Nat × Bool)
  | [] => []
  | call :: earlier =>
    t.answered place earlier ++
      if call = .deliver place then
        [(((t.after earlier).delivered place).1, (t.after earlier).forgets call)]
      else []

theorem answered_deliver (earlier : History) :
    t.answered place (.deliver place :: earlier) = t.answered place earlier ++
      [(((t.after earlier).delivered place).1, (t.after earlier).forgets (.deliver place))] := by
  rw [answered, if_pos rfl]

theorem answered_of_ne (other : call ≠ .deliver place) (earlier : History) :
    t.answered place (call :: earlier) = t.answered place earlier := by
  rw [answered, if_neg other, List.append_nil]

theorem answered_append (since earlier : History) :
    t.answered place (since ++ earlier) =
      t.answered place earlier ++ (t.after earlier).answered place since := by
  induction since with
  | nil => rw [List.nil_append, answered, List.append_nil]
  | cons call since ih =>
    by_cases delivery : call = .deliver place
    · subst delivery
      rw [List.cons_append, answered_deliver, answered_deliver, ih, after_append,
        List.append_assoc]
    · rw [List.cons_append, answered_of_ne delivery, answered_of_ne delivery, ih]

theorem length_answered (history : History) :
    (t.answered place history).length = history.count (.deliver place) := by
  induction history with
  | nil => rfl
  | cons call earlier ih =>
    by_cases delivery : call = .deliver place
    · subst delivery
      rw [answered_deliver, List.length_append, ih, List.count_cons_self]
      rfl
    · rw [answered_of_ne delivery, ih, List.count_cons_of_ne delivery]

/-- **A history in which nothing is forgotten.** -/
def Remembers (t : Tracker) (history : History) : Prop :=
  ∀ call earlier, call :: earlier <:+ history → (t.after earlier).forgets call = false

theorem remembers_nil (t : Tracker) : t.Remembers [] := by
  intro call earlier suffix
  exact absurd (List.suffix_nil.1 suffix) (List.cons_ne_nil call earlier)

theorem Remembers.tail {earlier : History} (h : t.Remembers (call :: earlier)) :
    t.Remembers earlier := fun c e suffix => h c e (suffix.trans (List.suffix_cons call earlier))

theorem Remembers.head {earlier : History} (h : t.Remembers (call :: earlier)) :
    (t.after earlier).forgets call = false := h call earlier (List.suffix_refl _)

theorem Remembers.cons {earlier : History} (h : t.Remembers earlier)
    (kept : (t.after earlier).forgets call = false) : t.Remembers (call :: earlier) := by
  intro c e suffix
  rcases List.suffix_cons_iff.1 suffix with same | suffix
  · cases same
    exact kept
  · exact h c e suffix

/-- The count of a record that is not acknowledged grows with its deliveries. -/
theorem Remembers.attempts {since : History} (h : t.Remembers since)
    (kept : Call.acknowledge place ∉ since) :
    (t.after since).attempts.getD place 0 =
      t.attempts.getD place 0 + since.count (.deliver place) := by
  induction since with
  | nil => rfl
  | cons call since ih =>
    rw [List.mem_cons, not_or] at kept
    obtain ⟨ne, kept⟩ := kept
    have before := ih h.tail kept
    rw [after_cons]
    cases call with
    | deliver other =>
      rw [(delivered_of_not_forgets h.head).2, Std.HashMap.getD_insert]
      by_cases same : other = place
      · subst same
        rw [if_pos (beq_self_eq_true _), before, List.count_cons_self]
        rfl
      · rw [if_neg (by simpa using same), before, List.count_cons_of_ne (by simpa using same)]
    | acknowledge other =>
      have apart : ¬(other == place) = true := by
        rw [beq_iff_eq]
        rintro rfl
        exact ne rfl
      rw [attempts_acknowledge, Std.HashMap.getD_erase, if_neg apart, before,
        List.count_cons_of_ne (by simp)]
    | rewind | fetch | giveUp =>
      rw [attempts_step_of_ne _ (by simp), before, List.count_cons_of_ne (by simp)]

/-- **Where nothing is forgotten** the deliveries of a record are numbered on, until it is
acknowledged. -/
theorem Remembers.answered {since : History} (h : t.Remembers since)
    (kept : Call.acknowledge place ∉ since) :
    t.answered place since =
      (List.range' (t.attempts.getD place 0 + 1) (since.count (.deliver place))).map
        fun attempt => (attempt, false) := by
  induction since with
  | nil => rfl
  | cons call since ih =>
    have kept' : Call.acknowledge place ∉ since := fun mem => kept (List.mem_cons_of_mem call mem)
    by_cases delivery : call = .deliver place
    · subst delivery
      rw [answered_deliver, ih h.tail kept', (delivered_of_not_forgets h.head).1, h.head,
        h.tail.attempts kept', List.count_cons_self, List.range'_1_concat, List.map_append,
        Nat.add_right_comm]
      rfl
    · rw [answered_of_ne delivery, ih h.tail kept', List.count_cons_of_ne delivery]

end Tracker

end MessageIntake.Transport
