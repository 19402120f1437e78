import Mathlib.Data.List.Basic
import MessageIntake.Proofs.Transport.Histories
import MessageIntake.Retry
/-!
# The budget of attempts is reached

A tracker that is full forgets the count of the very record that comes again, so that it is not
plain that the count of a record ever reaches the budget of a retry policy. With a limit of one it
never does. With a larger one the record may find the tracker full when it comes first, or fill
it and find it full when it comes again; after that it is counted on, for as long as no other
record is.

Main statement: a record that is delivered again and again is forgotten once at most, and reaches
the budget one delivery late at most (`budget_is_reached`).
-/

namespace MessageIntake.Transport

/-- **A call spares a record** if it delivers no other and does not acknowledge it. -/
def Call.Spares (place : RecordPlace) : Call → Prop
  | .deliver other => other = place
  | .acknowledge other => other ≠ place
  | .rewind _ | .fetch _ | .giveUp _ => True

namespace Tracker

variable {t : Tracker} {place : RecordPlace} {call : Call}

/-! ### Between the deliveries -/

/-- What is asked between the deliveries of a record leaves its count, and makes no other. -/
theorem kept_of_spares (spares : call.Spares place) (between : call ≠ .deliver place)
    (counted : place ∈ t.attempts) :
    place ∈ (t.step call).attempts ∧ (t.step call).tracked ≤ t.tracked ∧
      (t.step call).attempts.getD place 0 = t.attempts.getD place 0 := by
  cases call with
  | deliver other => exact absurd (congrArg Call.deliver spares) between
  | acknowledge other =>
    have apart : (other == place) = false := beq_eq_false_iff_ne.2 spares
    refine ⟨Std.HashMap.mem_erase.2 ⟨apart, counted⟩, Std.HashMap.size_erase_le, ?_⟩
    rw [attempts_acknowledge, Std.HashMap.getD_erase, apart, if_neg Bool.false_ne_true]
  | rewind | fetch | giveUp =>
    rw [tracked, attempts_step_of_ne t (by simp)]
    exact ⟨counted, Nat.le_refl _, rfl⟩

/-! ### A settled count -/

/-- **A record is settled** in a tracker that counts it and is not full. -/
structure Settled (t : Tracker) (place : RecordPlace) : Prop where
  counted : place ∈ t.attempts
  room : t.tracked < t.limit

/-- After a delivery at which all was forgotten the record is settled. -/
theorem settled_of_forgets (two : 2 ≤ t.limit) (forgets : t.forgets (.deliver place) = true) :
    (t.step (.deliver place)).Settled place := by
  obtain ⟨-, attempts⟩ := delivered_of_forgets forgets
  refine ⟨by rw [attempts]; exact Std.HashMap.mem_insert_self, ?_⟩
  rw [tracked, attempts, limit_step]
  calc
    _ ≤ (∅ : Std.HashMap RecordPlace Nat).size + 1 := Std.HashMap.size_insert_le
    _ = 1 := by rw [Std.HashMap.size_empty]
    _ < t.limit := two

/-- A delivery that is not forgotten settles a record that was counted before. -/
theorem settled_of_counted (counted : place ∈ t.attempts)
    (kept : t.forgets (.deliver place) = false) : (t.step (.deliver place)).Settled place := by
  obtain ⟨-, attempts⟩ := delivered_of_not_forgets kept
  refine ⟨by rw [attempts]; exact Std.HashMap.mem_insert_self, ?_⟩
  rw [tracked, attempts, limit_step, Std.HashMap.size_insert, if_pos counted]
  exact tracked_lt_of_not_forgets kept

/-- **A settled record stays settled**, and nothing is forgotten. -/
theorem Settled.step (h : t.Settled place) (spares : call.Spares place) :
    t.forgets call = false ∧ (t.step call).Settled place := by
  have kept : t.forgets call = false := by
    rw [Bool.eq_false_iff, ne_eq, forgets_iff]
    intro full
    exact Nat.not_le_of_lt h.room full.2
  refine ⟨kept, ?_⟩
  by_cases delivery : call = .deliver place
  · subst delivery
    exact settled_of_counted h.counted kept
  · obtain ⟨counted, fewer, -⟩ := kept_of_spares spares delivery h.counted
    exact ⟨counted, by rw [limit_step]; exact Nat.lt_of_le_of_lt fewer h.room⟩

/-- **From then on nothing is forgotten** while the record is spared. -/
theorem Settled.remembers (h : t.Settled place) {since : History}
    (spared : ∀ call ∈ since, call.Spares place) :
    t.Remembers since ∧ (t.after since).Settled place := by
  induction since with
  | nil => exact ⟨t.remembers_nil, h⟩
  | cons call since ih =>
    obtain ⟨remembers, settled⟩ := ih fun c mem => spared c (List.mem_cons_of_mem call mem)
    obtain ⟨kept, again⟩ := settled.step (spared call List.mem_cons_self)
    exact ⟨remembers.cons kept, again⟩

/-! ### How the deliveries begin -/

/-- **The first answers** to the deliveries of a record, up to where it is settled, with the count
that they leave: all was forgotten at the first of them, at the second, or at none. -/
inductive Opening : List (Nat × Bool) → Nat → Prop
  | first : Opening [(1, true)] 1
  | second (attempt : Nat) : Opening [(attempt, false), (1, true)] 1
  | never (attempt : Nat) : Opening [(attempt, false), (attempt + 1, false)] (attempt + 1)

/-- **How far the deliveries of a record have come**: to none, to one that made its count, or to
where it was settled. -/
inductive Course (t : Tracker) (place : RecordPlace) (history : History) : Prop
  | fresh (none : t.answered place history = [])
  | once (attempt : Nat) (one : t.answered place history = [(attempt, false)])
      (counted : place ∈ (t.after history).attempts)
      (count : (t.after history).attempts.getD place 0 = attempt)
  | settled {since earlier : History} (parts : history = since ++ earlier) {count : Nat}
      (opening : Opening (t.answered place earlier) count)
      (counted : (t.after earlier).attempts.getD place 0 = count)
      (settled : (t.after earlier).Settled place)

/-- **One more call**: the course of the deliveries goes on. -/
theorem Course.step (two : 2 ≤ t.limit) {earlier : History} (h : t.Course place earlier)
    (spares : call.Spares place) : t.Course place (call :: earlier) := by
  have two' : 2 ≤ (t.after earlier).limit := by rwa [limit_after]
  by_cases delivery : call = .deliver place
  · subst delivery
    -- a delivery is answered, after what was answered before
    have answers : t.answered place (.deliver place :: earlier) = _ := answered_deliver earlier
    cases forgets : (t.after earlier).forgets (.deliver place) with
    | true =>
      obtain ⟨answer, attempts⟩ := delivered_of_forgets forgets
      have count : (t.after (.deliver place :: earlier)).attempts.getD place 0 = 1 := by
        rw [after_cons, attempts, Std.HashMap.getD_insert_self]
      have alone := settled_of_forgets two' forgets
      rw [answer, forgets] at answers
      rcases h with none | ⟨attempt, one, -, -⟩ | ⟨rfl, opening, counted, settled⟩
      · rw [none] at answers
        exact .settled (List.nil_append _).symm (answers ▸ .first) count alone
      · rw [one] at answers
        exact .settled (List.nil_append _).symm (answers ▸ .second attempt) count alone
      · exact .settled (List.cons_append ..).symm opening counted settled
    | false =>
      obtain ⟨answer, attempts⟩ := delivered_of_not_forgets forgets
      have count : (t.after (.deliver place :: earlier)).attempts.getD place 0 =
          (t.after earlier).attempts.getD place 0 + 1 := by
        rw [after_cons, attempts, Std.HashMap.getD_insert_self]
      rw [answer, forgets] at answers
      rcases h with none | ⟨attempt, one, counted, same⟩ | ⟨rfl, opening, counted, settled⟩
      · rw [none] at answers
        refine .once _ answers ?_ count
        rw [after_cons, attempts]
        exact Std.HashMap.mem_insert_self
      · rw [one, same] at answers
        rw [same] at count
        exact .settled (List.nil_append _).symm (answers ▸ .never attempt) count
          (settled_of_counted counted forgets)
      · exact .settled (List.cons_append ..).symm opening counted settled
  · have answers : t.answered place (call :: earlier) = _ := answered_of_ne delivery earlier
    rcases h with none | ⟨attempt, one, counted, same⟩ | ⟨rfl, opening, counted, settled⟩
    · exact .fresh (answers.trans none)
    · obtain ⟨still, -, count⟩ := kept_of_spares spares delivery counted
      exact .once attempt (answers.trans one) still (count.trans same)
    · exact .settled (List.cons_append ..).symm opening counted settled

/-- **Over a whole history** that spares a record its deliveries take this course. -/
theorem course_of_spared (two : 2 ≤ t.limit) {history : History}
    (spared : ∀ call ∈ history, call.Spares place) : t.Course place history := by
  induction history with
  | nil => exact .fresh rfl
  | cons call earlier ih =>
    have before := ih fun c mem => spared c (List.mem_cons_of_mem call mem)
    exact before.step two (spared call List.mem_cons_self)

/-! ### What the answers come to -/

/-- **Answers that lag by one at most**: all was forgotten once at most, at one of the first two
deliveries, and no delivery is answered with less than the number of those before it. -/
structure Lags (answers : List (Nat × Bool)) : Prop where
  forgets_le : (answers.filter (·.2)).length ≤ 1
  early : ∀ i attempt, answers[i]? = some (attempt, true) → i < 2
  le : ∀ (i attempt : Nat) (forgot : Bool), answers[i]? = some (attempt, forgot) → i ≤ attempt

/-- The answers of a settled record, numbered on from its count. -/
theorem numbered_answer {first n i attempt : Nat} {forgot : Bool}
    (found : ((List.range' first n).map fun a => (a, false))[i]? = some (attempt, forgot)) :
    attempt = first + i ∧ forgot = false := by
  obtain ⟨lt, same⟩ := List.getElem?_eq_some_iff.1 found
  rw [List.getElem_map, List.getElem_range', Nat.one_mul, Prod.mk.injEq] at same
  exact ⟨same.1.symm, same.2.symm⟩

/-- **However the deliveries begin**, their answers lag by one at most. -/
theorem Opening.lags {opening : List (Nat × Bool)} {count : Nat} (h : Opening opening count)
    (n : Nat) : Lags (opening ++ (List.range' (count + 1) n).map fun a => (a, false)) := by
  have remembered : ((List.range' (count + 1) n).map fun a => (a, false)).filter (·.2) = [] := by
    simp
  have each : ∀ (i attempt : Nat) (forgot : Bool),
      (opening ++ (List.range' (count + 1) n).map fun a => (a, false))[i]? =
        some (attempt, forgot) → i ≤ attempt ∧ (forgot = true → i < 2) := by
    intro i attempt forgot found
    cases h with
    | first =>
      rcases i with - | i
      · exact ⟨Nat.zero_le _, fun _ => Nat.zero_lt_two⟩
      · obtain ⟨rfl, rfl⟩ := numbered_answer found
        exact ⟨by omega, nofun⟩
    | second first =>
      rcases i with - | - | i
      · exact ⟨Nat.zero_le _, fun _ => Nat.zero_lt_two⟩
      · cases found
        exact ⟨Nat.le_refl 1, fun _ => Nat.one_lt_two⟩
      · obtain ⟨rfl, rfl⟩ := numbered_answer found
        exact ⟨by omega, nofun⟩
    | never first =>
      rcases i with - | - | i
      · exact ⟨Nat.zero_le _, fun _ => Nat.zero_lt_two⟩
      · cases found
        exact ⟨by omega, nofun⟩
      · obtain ⟨rfl, rfl⟩ := numbered_answer found
        exact ⟨by omega, nofun⟩
  refine ⟨?_, fun i attempt found => (each i attempt true found).2 rfl,
    fun i attempt forgot found => (each i attempt forgot found).1⟩
  rw [List.filter_append, remembered, List.append_nil]
  cases h with
  | first | second | never => simp

/-- **The answers to a record that is spared** lag by one at most. -/
theorem Course.lags {history : History} (h : t.Course place history)
    (spared : ∀ call ∈ history, call.Spares place) : Lags (t.answered place history) := by
  rcases h with none | ⟨attempt, one, -, -⟩ | ⟨rfl, opening, counted, settled⟩
  · rw [none]
    exact ⟨Nat.zero_le _, nofun, nofun⟩
  · rw [one]
    refine ⟨Nat.zero_le _, ?_, ?_⟩
    · intro i a found
      rcases i with - | i
      · exact Nat.zero_lt_two
      · cases found
    · intro i a forgot found
      rcases i with - | i
      · exact Nat.zero_le _
      · cases found
  · next since earlier count =>
    have later : ∀ call ∈ since, call.Spares place :=
      fun call mem => spared call (List.mem_append_left earlier mem)
    have kept : Call.acknowledge place ∉ since := fun mem => later _ mem rfl
    rw [answered_append, (settled.remembers later).1.answered kept, counted]
    exact opening.lags _

/-- **The budget is reached**, whatever the tracker counted before and whatever its limit, as long
as it is more than one. -/
theorem budget_is_reached (t : Tracker) (two : 2 ≤ t.limit) (policy : RetryPolicy)
    (place : RecordPlace) (history : History) (spared : ∀ call ∈ history, call.Spares place) :
    ((t.answered place history).filter (·.2)).length ≤ 1 ∧
      (∀ i attempt, (t.answered place history)[i]? = some (attempt, true) → i < 2) ∧
      (max 1 policy.maxAttempts + 1 ≤ history.count (.deliver place) →
        ∃ answer ∈ (t.answered place history).take (max 1 policy.maxAttempts + 1),
          policy.isExhausted answer.1 = true) := by
  have lags := (course_of_spared two spared).lags spared
  refine ⟨lags.forgets_le, lags.early, ?_⟩
  intro often
  -- the last of these deliveries is answered with the budget at least
  have lt : max 1 policy.maxAttempts < (t.answered place history).length := by
    rw [length_answered]
    exact often
  refine ⟨(t.answered place history)[max 1 policy.maxAttempts], ?_, ?_⟩
  · exact List.mem_take_iff_getElem.2 ⟨_, Nat.lt_min.2 ⟨Nat.lt_succ_self _, lt⟩, rfl⟩
  · have reached := lags.le _ _ _ (List.getElem?_eq_getElem lt)
    exact decide_eq_true (Nat.le_trans (Nat.le_max_right 1 policy.maxAttempts) reached)

/-- A record that fills its tracker reaches a budget of five with its sixth delivery. -/
theorem budget_of_record_that_fills_tracker :
    let place : RecordPlace := ⟨"chat-messages", 0, 2⟩
    let t := (empty 2).after [.deliver ⟨"chat-messages", 0, 1⟩]
    let again : History := List.replicate 6 (.deliver place)
    t.answered place again =
        [(1, false), (1, true), (2, false), (3, false), (4, false), (5, false)] ∧
      ∃ answer ∈ (t.answered place again).take 6,
        RetryPolicy.default.isExhausted answer.1 = true := by
  intro place t again
  constructor
  · have apart : ¬(⟨"chat-messages", 0, 1⟩ : RecordPlace) = ⟨"chat-messages", 0, 2⟩ := by decide
    simp [t, again, place, answered, step, delivered, isFull, tracked, forget, forgets, empty,
      Std.HashMap.size_insert, Std.HashMap.getD_insert, apart, List.replicate]
  · have spared : ∀ call ∈ again, call.Spares place := by
      intro call mem
      rw [List.eq_of_mem_replicate mem]
      rfl
    exact (budget_is_reached t (Nat.le_refl 2) RetryPolicy.default place again spared).2.2
      (by decide)

end Tracker

end MessageIntake.Transport
