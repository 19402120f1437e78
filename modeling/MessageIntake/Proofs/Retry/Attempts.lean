import MessageIntake.Proofs.Dispatch.Routing
import MessageIntake.Retry.Loop
/-!
# Attempts and their schedule

How often an operation is attempted under a policy without jitter, when, and with what result, for
every sequence of outcomes that its calls may have; and that a record which fails again and again is
delivered again on the same schedule, and dead-lettered at the same attempt.

Main statement: the calls end with the first success, or with the budget, whichever comes first;
between two calls there is the wait of the policy, and nothing else is ever waited for; and a
dispatch that fails with attempt `i` of the budget asks for the wait that follows call `i`
(`attempts_follow_schedule`).
-/

namespace MessageIntake

namespace RetryPolicy

/-- **The budget** of a policy: at least one attempt is made. -/
def budget (p : RetryPolicy) : Nat := Nat.max 1 p.maxAttempts

variable {p : RetryPolicy} {attempt : Nat}

/-- An attempt has used up the budget if it is not below it. -/
theorem isExhausted_iff (pos : 1 ≤ attempt) :
    p.isExhausted attempt = true ↔ p.budget ≤ attempt := by
  rw [isExhausted, decide_eq_true_iff, budget, Nat.max_le]
  exact (and_iff_right pos).symm

/-- An attempt within the budget is not after the last one that is followed by a wait. -/
theorem min_lastRetryAttempt (pos : 1 ≤ attempt) (further : attempt < p.budget) :
    Nat.min attempt p.lastRetryAttempt = attempt := by
  refine Nat.min_eq_left ?_
  have more : attempt < p.maxAttempts := by
    rwa [← Nat.not_le, ← isExhausted_iff pos, isExhausted, decide_eq_true_iff,
      Nat.not_le] at further
  exact Nat.le_trans (Nat.le_sub_one_of_lt more) (Nat.le_max_left ..)

end RetryPolicy

namespace Retry

open Dialogue (Passage exchanges passage_done_iff passage_tell_iff passage_ask_iff
  passage_bind_iff)

variable {ε α σ : Type}

/-- An event of the loop. -/
abbrev Event (ε α σ : Type) := Dialogue.Event (api ε α) Telemetry σ

/-! ### The world of an operation -/

/-- **A clock**, and what it showed when the operation was called, the first time first. -/
structure Clock where
  now : Nat
  callTimes : List Nat

/-- **The world of an operation** whose calls have given outcomes, the first call being number one:
time only goes on, and a wait is not over before its span is. -/
def operation (outcomes : Nat → Except ε α) : World (api ε α) Clock := fun q c a c' =>
  match q, a with
  | .call, a => a = outcomes (c.callTimes.length + 1) ∧
      ∃ called, c.now ≤ called ∧ called ≤ c'.now ∧ c'.callTimes = c.callTimes ++ [called]
  | .factor, _ => c' = c
  | .sleep span, _ => c.now + span.nanos ≤ c'.now ∧ c'.callTimes = c.callTimes

/-- The operation has an outcome for each call, and each wait ends. -/
theorem operation_total (outcomes : Nat → Except ε α) (q : Question) (c : Clock) :
    ∃ a c', operation outcomes q c a c' := by
  cases q with
  | call =>
    exact ⟨_, ⟨c.now, c.callTimes ++ [c.now]⟩, rfl, c.now, Nat.le_refl _, Nat.le_refl _, rfl⟩
  | factor => exact ⟨.one, c, rfl⟩
  | sleep span => exact ⟨(), ⟨c.now + span.nanos, c.callTimes⟩, Nat.le_refl _, rfl⟩

/-! ### The schedule -/

/-- **What is asked** on the way, the first question first. -/
def asked (events : List (Event ε α σ)) : List Question :=
  (exchanges events).map fun e => e.question

/-- **The schedule** from an attempt on that is followed by `more` others: a call, and before each
of the others the wait of the policy. -/
def schedule (p : RetryPolicy) (attempt more : Nat) : List Question :=
  (List.range' attempt more).flatMap (fun i => [.call, .sleep (p.backoff i .one)]) ++ [.call]

theorem schedule_succ (p : RetryPolicy) (attempt more : Nat) :
    schedule p attempt (more + 1) =
      .call :: .sleep (p.backoff attempt .one) :: schedule p (attempt + 1) more := by
  simp [schedule, List.range'_succ]

/-- **The waits** after an attempt and the ones that follow it, `count` of them, in nanoseconds. -/
def waited (p : RetryPolicy) (attempt count : Nat) : Nat :=
  (List.range' attempt count).foldr (fun i later => (p.backoff i .one).nanos + later) 0

theorem waited_succ (p : RetryPolicy) (attempt count : Nat) :
    waited p attempt (count + 1) =
      (p.backoff attempt .one).nanos + waited p (attempt + 1) count := by
  simp [waited, List.range'_succ]

/-- **Times keep to the schedule**: each is no earlier than the waits until then allow, counted from
the first of them. -/
def Paced (p : RetryPolicy) (attempt : Nat) (times : List Nat) : Prop :=
  ∀ i first time, times[0]? = some first → times[i]? = some time →
    first + waited p attempt i ≤ time

theorem paced_singleton (p : RetryPolicy) (attempt called : Nat) : Paced p attempt [called] := by
  intro i first time head nth
  cases i with
  | zero =>
    rw [head] at nth
    exact Nat.le_of_eq (Option.some.inj nth)
  | succ i => simp at nth

/-- A call before others that keep to the schedule. -/
theorem Paced.cons {p : RetryPolicy} {attempt called next : Nat} {later : List Nat}
    (h : Paced p (attempt + 1) (next :: later))
    (wait : called + (p.backoff attempt .one).nanos ≤ next) :
    Paced p attempt (called :: next :: later) := by
  intro i first time head nth
  obtain rfl : called = first := Option.some.inj head
  cases i with
  | zero => exact Nat.le_of_eq (Option.some.inj nth)
  | succ i =>
    have rest := h i next time rfl nth
    rw [waited_succ]
    omega

/-! ### One attempt -/

/-- **One attempt**, and all that follow it, under a policy without jitter. -/
inductive Attempt [ToString ε] (W : World (api ε α) σ) (p : RetryPolicy) (attempt : Nat) (s : σ) :
    List (Event ε α σ) → Except (Exhausted ε) α → σ → Prop where
  | succeeds {a : α} {s' : σ} (call : W .call s (.ok a) s') :
      Attempt W p attempt s [.answered .call (.ok a) s'] (.ok a) s'
  | exhausts {e : ε} {s' : σ} (spent : p.isExhausted attempt = true)
      (call : W .call s (.error e) s') :
      Attempt W p attempt s
        [.answered .call (.error e) s', .told (exhaustedLine attempt e)] (.error ⟨attempt, e⟩) s'
  | again {e : ε} {mid next s' : σ} {later : List (Event ε α σ)}
      {value : Except (Exhausted ε) α} (further : p.isExhausted attempt = false)
      (call : W .call s (.error e) mid) (wait : W (.sleep (p.backoff attempt .one)) mid () next)
      (rest : Passage W (attemptFrom p (attempt + 1)) next later value s') :
      Attempt W p attempt s
        (.answered .call (.error e) mid ::
          .told (retryLine p attempt e (p.backoff attempt .one)) ::
          .answered (.sleep (p.backoff attempt .one)) () next :: later)
        value s'

variable {W : World (api ε α) σ} {p : RetryPolicy} {attempt : Nat} {s s' : σ}
  {value : Except (Exhausted ε) α}

theorem attempt_of_attemptFrom [ToString ε] (steady : p.jitter = false)
    {events : List (Event ε α σ)}
    (h : Passage W (attemptFrom p attempt) s events value s') :
    Attempt W p attempt s events value s' := by
  rw [attemptFrom] at h
  obtain ⟨outcome, mid, later, rfl, call, answered⟩ := passage_ask_iff.1 h
  cases outcome with
  | ok a =>
    obtain ⟨rfl, rfl, rfl⟩ := passage_done_iff.1 answered
    exact .succeeds call
  | error e =>
    dsimp only at answered
    split at answered
    · next spent =>
      obtain ⟨later, rfl, noted⟩ := passage_tell_iff.1 answered
      obtain ⟨rfl, rfl, rfl⟩ := passage_done_iff.1 noted
      exact .exhausts spent call
    · next further =>
      rw [drawFactor, steady, if_neg Bool.false_ne_true] at answered
      obtain ⟨later, rfl, noted⟩ := passage_tell_iff.1 answered
      obtain ⟨answer, next, later, rfl, wait, rest⟩ := passage_ask_iff.1 noted
      exact .again (Bool.eq_false_iff.2 further) call wait rest

/-! ### All attempts -/

/-- **What comes of the attempts** from one on, the last of them being number `last`. -/
structure Comes (p : RetryPolicy) (outcomes : Nat → Except ε α) (attempt last : Nat)
    (events : List (Event ε α Clock)) (value : Except (Exhausted ε) α) (c c' : Clock) : Prop where
  le : attempt ≤ last
  within : last ≤ p.budget
  failed : ∀ i, attempt ≤ i → i < last → (outcomes i).isOk = false
  final : (outcomes last).isOk = true ∨ last = p.budget
  asked : asked events = schedule p attempt (last - attempt)
  result : value = (outcomes last).mapError fun e => ⟨last, e⟩
  called : ∃ called later, c'.callTimes = c.callTimes ++ called :: later ∧ c.now ≤ called ∧
    later.length = last - attempt ∧ Paced p attempt (called :: later)

/-- Nothing comes after the last attempt. -/
theorem Comes.last {outcomes : Nat → Except ε α} {events : List (Event ε α Clock)} {c c' : Clock}
    (le : attempt ≤ p.budget) (final : (outcomes attempt).isOk = true ∨ attempt = p.budget)
    (asks : Retry.asked events = [.call])
    (result : value = (outcomes attempt).mapError fun e => ⟨attempt, e⟩)
    (called : ∃ called, c.now ≤ called ∧ called ≤ c'.now ∧
      c'.callTimes = c.callTimes ++ [called]) :
    Comes p outcomes attempt attempt events value c c' where
  le := Nat.le_refl _
  within := le
  failed := fun _ le lt => absurd lt (Nat.not_lt.2 le)
  final
  asked := by
    rw [asks, Nat.sub_self]
    rfl
  result
  called := by
    obtain ⟨called, after, -, times⟩ := called
    exact ⟨called, [], times, after, (Nat.sub_self _).symm, paced_singleton p attempt called⟩

/-- **The loop**, by induction on how many attempts the budget still allows. -/
theorem exists_comes [ToString ε] (steady : p.jitter = false) {outcomes : Nat → Except ε α}
    {events : List (Event ε α Clock)} {c c' : Clock} (pos : 1 ≤ attempt)
    (le : attempt ≤ p.budget) (before : c.callTimes.length + 1 = attempt)
    (h : Passage (operation outcomes) (attemptFrom p attempt) c events value c') :
    ∃ last, Comes p outcomes attempt last events value c c' := by
  obtain ⟨left, total⟩ := Nat.exists_eq_add_of_le le
  induction left using Nat.strongRecOn generalizing attempt c events with
  | ind left ih =>
    cases attempt_of_attemptFrom steady h with
    | @succeeds a _ call =>
      obtain ⟨outcome, called⟩ := call
      rw [before] at outcome
      refine ⟨attempt, .last le (.inl ?_) rfl ?_ called⟩
      · rw [← outcome]
        rfl
      · rw [← outcome]
        rfl
    | @exhausts e _ spent call =>
      obtain ⟨outcome, called⟩ := call
      rw [before] at outcome
      have same := Nat.le_antisymm le ((RetryPolicy.isExhausted_iff pos).1 spent)
      refine ⟨attempt, .last le (.inr same) rfl ?_ called⟩
      rw [← outcome]
      rfl
    | @again e mid next _ later value further call wait rest =>
      obtain ⟨outcome, called, after, until_mid, times⟩ := call
      obtain ⟨until_next, same⟩ := wait
      have lt : attempt < p.budget := by
        rw [← Nat.not_le, ← RetryPolicy.isExhausted_iff pos, further]
        exact Bool.false_ne_true
      have length : next.callTimes.length + 1 = attempt + 1 := by
        rw [same, times, List.length_append, ← before]
        rfl
      obtain ⟨last, comes⟩ := ih (left - 1) (by omega) (Nat.succ_pos _) lt length rest (by omega)
      obtain ⟨second, others, times', after', count, paced⟩ := comes.called
      have more : last - attempt = last - (attempt + 1) + 1 := by
        have := comes.le
        omega
      rw [before] at outcome
      exact ⟨last, {
        le := Nat.le_of_succ_le comes.le
        within := comes.within
        failed := by
          intro i from_le lt
          rcases Nat.eq_or_lt_of_le from_le with rfl | after
          · rw [← outcome]
            rfl
          · exact comes.failed i after lt
        final := comes.final
        asked := by
          rw [more, schedule_succ, ← comes.asked]
          rfl
        result := comes.result
        called := by
          refine ⟨called, second :: others, ?_, after, ?_, paced.cons ?_⟩
          · rw [times', same, times, List.append_assoc]
            rfl
          · rw [List.length_cons, count, more]
          · omega }⟩

/-! ### Within the budget -/

/-- **The first success** of an operation is that of call number `s`. -/
structure FirstSuccess (outcomes : Nat → Except ε α) (s : Nat) : Prop where
  pos : 1 ≤ s
  succeeds : (outcomes s).isOk = true
  first : ∀ k, 1 ≤ k → k < s → (outcomes k).isOk = false

/-- **An operation was attempted** as often as is allowed: `n` times. -/
structure Attempted (p : RetryPolicy) (outcomes : Nat → Except ε α) (n : Nat)
    (events : List (Event ε α Clock)) (value : Except (Exhausted ε) α) (times : List Nat) :
    Prop where
  /-- It is called until it succeeds, if that is within the budget. -/
  until_success : ∀ s, FirstSuccess outcomes s → n = Nat.min s p.budget
  /-- It is called as often as the budget allows, if it never succeeds. -/
  until_budget : (∀ k, 1 ≤ k → (outcomes k).isOk = false) → n = p.budget
  /-- Between two calls there is the wait of the policy, and nowhere else is one. -/
  asked : asked events = schedule p 1 (n - 1)
  /-- The result is that of the last call. -/
  result : value = (outcomes n).mapError fun e => ⟨p.budget, e⟩
  /-- So many calls are seen. -/
  length : times.length = n
  /-- None of them is too early. -/
  paced : Paced p 1 times

/-- What comes of all attempts. -/
theorem Comes.attempted {outcomes : Nat → Except ε α} {n start : Nat}
    {events : List (Event ε α Clock)} {c' : Clock}
    (h : Comes p outcomes 1 n events value ⟨start, []⟩ c') :
    Attempted p outcomes n events value c'.callTimes := by
  obtain ⟨called, later, times, -, count, paced⟩ := h.called
  rw [List.nil_append] at times
  have pos := h.le
  exact {
    until_success := by
      intro s success
      have le : n ≤ s := by
        refine Nat.not_lt.1 fun before => ?_
        exact Bool.false_ne_true ((h.failed s success.pos before).symm.trans success.succeeds)
      rcases h.final with succeeds | spent
      · have same : n = s := by
          refine Nat.le_antisymm le (Nat.not_lt.1 fun before => ?_)
          exact Bool.false_ne_true ((success.first n pos before).symm.trans succeeds)
        rw [← same]
        exact (Nat.min_eq_left h.within).symm
      · rw [← spent]
        exact (Nat.min_eq_right le).symm
    until_budget := by
      intro never
      refine h.final.resolve_left fun succeeds => ?_
      rw [never n pos] at succeeds
      exact Bool.false_ne_true succeeds
    asked := h.asked
    result := by
      rw [h.result]
      cases outcome : outcomes n with
      | ok a => rfl
      | error e =>
        have spent : n = p.budget := h.final.resolve_left fun succeeds => by
          rw [outcome] at succeeds
          exact Bool.false_ne_true succeeds
        rw [spent]
    length := by
      rw [times, List.length_cons, count]
      omega
    paced := times ▸ paced }

end Retry

/-! ### The same schedule for records -/

namespace Dispatch

open Dialogue (Passage)

variable {σ : Type} {W : World api σ} {p : RetryPolicy} {record : Record} {s s' : σ}
  {events : List (Event σ)} {disposition : Disposition}

/-- **A record that failed again** is settled as the schedule of the attempts has it. -/
structure Redelivered (p : RetryPolicy) (attempt : Nat) (events : List (Event σ))
    (disposition : Disposition) : Prop where
  /-- Within the budget it is left, for the wait that follows the attempt. -/
  left : attempt < p.budget → offers events = [] ∧
    ∃ reason, disposition = .retry (p.backoff attempt .one) attempt reason
  /-- With the last attempt a letter is offered, which settles the record if it is published. -/
  lettered : p.budget ≤ attempt → ∃ o, offers events = [o] ∧
    o.letter.failureReason = .retriesExhausted ∧ o.letter.attemptCount = attempt ∧
    (o.answer = .ok () → disposition = .deadLettered .retriesExhausted .recoverable attempt)

/-- What offers no letter changes nothing before or after it. -/
theorem Redelivered.extend {attempt : Nat} {whole : List (Event σ)}
    (h : Redelivered p attempt events disposition) (same : offers whole = offers events) :
    Redelivered p attempt whole disposition where
  left := same ▸ h.left
  lettered := same ▸ h.lettered

/-- **A recoverable failure** of an attempt is settled by the schedule. -/
theorem Concludes.redelivered {stage : Stage} {failure : Failure} (steady : p.jitter = false)
    (recoverable : failure.failureClass = .recoverable)
    (h : Concludes W p record s (.error (stage, failure)) events disposition s') :
    Redelivered p (attemptOf record) events disposition := by
  have pos : 1 ≤ attemptOf record := Nat.le_max_right ..
  have final_iff : isFinal p record failure = true ↔ p.budget ≤ attemptOf record := by
    rw [← RetryPolicy.isExhausted_iff pos, isFinal, recoverable]
  cases h with
  | @final _ _ later _ _ final rejects =>
    have reason : finalReason failure = .retriesExhausted := by rw [finalReason, recoverable]
    refine ⟨fun further => absurd (final_iff.1 final) (Nat.not_le.2 further), fun _ => ?_⟩
    rw [recoverable, reason] at rejects
    cases rejects with
    | @published failedAt letter mid _ now written publish =>
      exact ⟨⟨record, letter, .ok ()⟩, rfl, written ▸ rfl, written ▸ rfl, fun _ => rfl⟩
    | @refused failedAt letter refusal mid next _ later _ now written publish left =>
      refine ⟨⟨record, letter, .error refusal⟩, ?_, written ▸ rfl, written ▸ rfl, ?_⟩
      · simp [left.waits.1]
      · rintro ⟨⟩
  | @further _ _ later _ _ further postpones =>
    have within : attemptOf record < p.budget := by
      rw [← Nat.not_le, ← final_iff, further]
      exact Bool.false_ne_true
    refine ⟨fun _ => ?_, fun spent => absurd spent (Nat.not_le.2 within)⟩
    cases postpones with
    | drawn jitter => exact absurd (steady.symm.trans jitter) Bool.false_ne_true
    | even =>
      rw [RetryPolicy.min_lastRetryAttempt pos within]
      exact ⟨rfl, _, rfl⟩

/-- **A store that is down** fails every pipeline that comes to it. -/
theorem stored_of_down {V : World Store.api σ} {event : AcceptedEvent} {failure : Failure}
    {own : List (Dialogue.Event Store.api Telemetry σ)} {stored : Except Failure Outcome}
    (down : ∀ q s a s', V q s a s' → a = .error failure)
    (h : Passage V (Persistence.persist event) s own stored s') : stored = .error failure := by
  obtain ⟨first, second, found, mid, rfl, looks, rest⟩ := Dialogue.passage_bind_iff.1 h
  obtain ⟨answer, next, later, rfl, answered, follows⟩ := Dialogue.passage_ask_iff.1 looks
  obtain rfl := down _ _ _ _ answered
  obtain ⟨rfl, rfl, rfl⟩ := Dialogue.passage_done_iff.1 follows
  obtain ⟨-, rfl, -⟩ := Dialogue.passage_done_iff.1 rest
  rfl

end Dispatch

namespace Retry

open Dialogue (Passage)
open Dispatch (dispatch pipeline Redelivered)

variable {ε α : Type}

/-- **Attempts follow the schedule of their policy.** Without jitter, and whatever the outcomes of
its calls: attempting an operation comes to an end, and wherever it ends, the operation was called
until its first success, within a budget of at least one call, with the waits of the policy in
between. The schedule is that of a record as well: if its pipeline always fails recoverably,
delivery number `attempt` leaves it for the wait that follows that attempt, and the last one within
the budget offers its letter. -/
theorem attempts_follow_schedule [ToString ε] {p : RetryPolicy} (steady : p.jitter = false) :
    (∀ (outcomes : Nat → Except ε α) (start : Nat),
      (∃ events value c', Passage (operation outcomes) (run p) ⟨start, []⟩ events value c') ∧
      ∀ events value c', Passage (operation outcomes) (run p) ⟨start, []⟩ events value c' →
        ∃ n, Attempted p outcomes n events value c'.callTimes) ∧
    ∀ (σ : Type) (W : World Dispatch.api σ) (record : Record), (∀ q s, ∃ a s', W q s a s') →
      (∀ s events result s', Passage W (pipeline record) s events result s' →
        ∃ stage failure, result = .error (stage, failure) ∧ failure.failureClass = .recoverable) →
      ∀ attempt s, 1 ≤ attempt →
        (∃ events disposition s',
          Passage W (dispatch p { record with attempt }) s events disposition s') ∧
        ∀ events disposition s',
          Passage W (dispatch p { record with attempt }) s events disposition s' →
            Redelivered p attempt events disposition := by
  constructor
  · intro outcomes start
    refine ⟨Dialogue.exists_passage (operation_total outcomes) _ _, fun events value c' h => ?_⟩
    obtain ⟨n, comes⟩ := exists_comes steady (Nat.le_refl 1) (Nat.le_max_left ..) rfl h
    exact ⟨n, comes.attempted⟩
  · intro σ W record total fails attempt s pos
    refine ⟨Dialogue.exists_passage total _ _, fun events disposition s' h => ?_⟩
    obtain ⟨piped, settled, result, mid, rfl, pipes, concludes⟩ := Dispatch.course_of_dispatch h
    obtain ⟨stage, failure, rfl, recoverable⟩ := fails s piped result mid pipes
    have number : Dispatch.attemptOf { record with attempt } = attempt := Nat.max_eq_left pos
    have redelivered := concludes.redelivered steady recoverable
    rw [number] at redelivered
    refine redelivered.extend ?_
    simp [(Dispatch.pipes_of_pipeline pipes).offers]

/-- **A third call that succeeds**, after waits of one second and of five; and a record that cannot
be stored, which is left after its first delivery and offered as a letter after its third. -/
theorem third_call_and_third_delivery :
    ∃ (p : RetryPolicy) (outcomes : Nat → Except String Nat) (record : Record)
      (W : World Dispatch.api Unit), p.maxAttempts = 3 ∧
      (∃ events c', Passage (operation outcomes) (run p) ⟨0, []⟩ events (.ok 3) c' ∧
        asked events = [.call, .sleep (.ofMillis 1000), .call, .sleep (.ofMillis 5000), .call]) ∧
      (∃ events reason, Passage W (dispatch p { record with attempt := 1 }) () events
        (.retry (.ofMillis 1000) 1 reason) ()) ∧
      ∃ events disposition o, Passage W (dispatch p { record with attempt := 3 }) () events
        disposition () ∧ Dispatch.offers events = [o] ∧
        o.letter.failureReason = .retriesExhausted := by
  let p : RetryPolicy := { RetryPolicy.default with maxAttempts := 3 }
  let outcomes : Nat → Except String Nat := fun k => if k < 3 then .error "down" else .ok k
  let record : Record := Dispatch.greeting 0
  let down : Failure := .datastoreUnavailable "down"
  let W : World Dispatch.api Unit := fun q _ a _ =>
    match q, a with
    | .store _, a => a = .error down
    | .now, a => a = Timestamp.epoch
    | .publish .., _ | .factor, _ => True
  have total : ∀ q s, ∃ a s', W q s a s' := by
    rintro (q | _ | _ | _) s
    · exact ⟨.error down, (), rfl⟩
    · exact ⟨.ok (), (), trivial⟩
    · exact ⟨.epoch, (), rfl⟩
    · exact ⟨.one, (), trivial⟩
  have read : ChatEvent.ofPayload? record.payload = .ok Dispatch.greetingEvent :=
    Dispatch.read_greeting 0
  have fails : ∀ s events result s', Passage W (pipeline record) s events result s' →
      ∃ stage failure, result = .error (stage, failure) ∧
        failure.failureClass = .recoverable := by
    intro s events result s' h
    cases Dispatch.pipes_of_pipeline h with
    | unread unread => cases read.symm.trans unread
    | @unaccepted _ receivedAt failure _ read' now rejected =>
      obtain rfl : receivedAt = .epoch := now
      cases read.symm.trans read'
      cases rejected.symm.trans Dispatch.accept_greeting
    | @persisted _ _ _ own stored mid _ _ _ _ passage =>
      obtain rfl := Dispatch.stored_of_down (fun _ _ _ _ failed => failed) passage
      exact ⟨.storing, down, rfl, rfl⟩
  obtain ⟨attempts, deliveries⟩ := @attempts_follow_schedule String Nat _ p rfl
  obtain ⟨⟨calls, value, c', passage⟩, attempted⟩ := attempts outcomes 0
  obtain ⟨n, attempted⟩ := attempted _ _ _ passage
  obtain ⟨⟨first, left, s₁, passage₁⟩, redelivered₁⟩ :=
    deliveries Unit W record total fails 1 () (Nat.le_refl 1)
  obtain ⟨⟨third, settled, s₃, passage₃⟩, redelivered₃⟩ :=
    deliveries Unit W record total fails 3 () (by decide)
  have wait : p.backoff 1 .one = .ofMillis 1000 := by decide +kernel
  have wait' : p.backoff 2 .one = .ofMillis 5000 := by decide +kernel
  have succeeds : FirstSuccess outcomes 3 := by
    refine ⟨by decide, rfl, fun k _ before => ?_⟩
    rw [show outcomes k = .error "down" from if_pos before]
    rfl
  obtain rfl : n = 3 := attempted.until_success 3 succeeds
  obtain rfl : value = .ok 3 := attempted.result
  obtain ⟨-, reason, rfl⟩ := (redelivered₁ _ _ _ passage₁).left (by decide)
  obtain ⟨o, offered, exhausted, -⟩ := (redelivered₃ _ _ _ passage₃).lettered (by decide)
  refine ⟨p, outcomes, record, W, rfl, ⟨calls, c', passage, ?_⟩, ⟨first, reason, ?_⟩,
    third, settled, o, passage₃, offered, exhausted⟩
  · rw [attempted.asked, ← wait, ← wait']
    rfl
  · rw [← wait]
    exact passage₁

end Retry

end MessageIntake
