import MessageIntake.Proofs.Dispatch.Effect
import MessageIntake.Proofs.Worker.Turns
/-!
# Records that are retried

A worker without a stop signal, over a source with a finite queue: a record that is asked for
again comes next, with one attempt more, and the source closes when nothing is left. The store
fails and misses as it likes, without a trace, acknowledgements may fail, and any number of faults
may come in between.

A record is dispatched until its budget is used up, and past that as often as its letter is
refused; only then comes the next one. So what a run has done is one *story* after the other, in
the order of the queue: a record's dispatches after which it was put back, and the last one.

Main statement: a run ends as soon as faults and refusals do, and then each record was
acknowledged once, in order, and stored or dead-lettered (`run_settles_queue`).
-/

namespace MessageIntake.Worker

open Dialogue (Passage)
open Dispatch (Effect Grows IsFrom IsOf Verdict faulty faultyDispatch)
open Store (Memory Operation after)

/-! ### A queue that takes records back -/

/-- **What a worker has before it**: the records that are left, and a store. -/
structure Backlog where
  queue : List Record
  memory : Memory

/-- **A source that takes records back.** It has faults as it likes, and closes when its queue is
empty; every rewind succeeds. Nobody stops the worker, so that its waits elapse. -/
def requeuing : World api Backlog
  | .dispatch q, b, a, b' => faultyDispatch q b.memory a b'.memory ∧ b'.queue = b.queue
  | .isStopping, b, a, b' => a = false ∧ b' = b
  | .receive, b, .record record, b' => b.queue = record :: b'.queue ∧ b'.memory = b.memory
  | .receive, b, .fault _, b' => b' = b
  | .receive, b, .closed, b' => b.queue = [] ∧ b' = b
  | .receive, _, .signalled, _ => False
  | .receive, _, .abandoned, _ => False
  | .ack _, b, _, b' => b' = b
  | .nack record, b, a, b' => a = .ok () ∧ b' = { b with queue := record.again :: b.queue }
  | .rest _, b, a, b' => a = .elapsed ∧ b' = b

/-- Every question has an answer. -/
theorem requeuing_total (q : Question) (b : Backlog) : ∃ a b', requeuing q b a b' := by
  cases q with
  | dispatch q =>
    cases q with
    | store q => exact ⟨_, ⟨b.queue, (b.memory.answer q).2⟩, .inl rfl, rfl⟩
    | publish => exact ⟨.ok (), b, rfl, rfl⟩
    | now => exact ⟨.epoch, b, rfl, rfl⟩
    | factor => exact ⟨.one, b, rfl, rfl⟩
  | isStopping => exact ⟨_, _, rfl, rfl⟩
  | receive =>
    cases left : b.queue with
    | nil => exact ⟨.closed, b, left, rfl⟩
    | cons record rest => exact ⟨.record record, ⟨rest, b.memory⟩, left, rfl⟩
  | ack => exact ⟨.ok (), b, rfl⟩
  | nack => exact ⟨_, _, rfl, rfl⟩
  | rest => exact ⟨_, _, rfl, rfl⟩

/-- A faulty store only grows. -/
theorem grows_of_faulty {q : Store.Question} {m m' : Memory} {a : Store.api.Answer q}
    (h : faulty q m a m') : Grows m m' := by
  rcases h with eq | ⟨-, rfl⟩
  · rw [(Prod.mk.inj eq).2]
    exact Dispatch.grows_answer m q
  · exact .refl m'

/-- So does the store of a backlog. -/
theorem grows_of_requeuing {q : Question} {b b' : Backlog} {a : api.Answer q}
    (h : requeuing q b a b') : Grows b.memory b'.memory := by
  cases q with
  | dispatch q =>
    obtain ⟨answered, -⟩ := h
    cases q with
    | store q => exact grows_of_faulty answered
    | publish | now | factor => exact answered ▸ .refl _
  | receive =>
    cases a with
    | record record => exact h.2 ▸ .refl _
    | fault fault => exact (show b' = b from h) ▸ .refl _
    | closed => exact h.2 ▸ .refl _
    | signalled | abandoned => exact h.elim
  | ack record => exact (show b' = b from h) ▸ .refl _
  | isStopping | nack | rest => exact h.2 ▸ .refl _

/-- And it grows along any passage in which it does so with each answer. -/
theorem grows_of_passage {I : Interface} {ν α : Type} {W : World I Backlog}
    (grows : ∀ q b a b', W q b a b' → Grows b.memory b'.memory) {d : Dialogue I ν α}
    {b b' : Backlog} {events : List (Dialogue.Event I ν Backlog)} {value : α}
    (h : Passage W d b events value b') : Grows b.memory b'.memory := by
  refine h.preserves (P := fun c => Grows b.memory c.memory) ?_ (.refl _)
  intro q c a c' answered grown
  exact grown.trans (grows q c a c' answered)

variable {policy : RetryPolicy} {t : Treatment Backlog}

/-! ### Treatments -/

/-- A dispatch leaves the queue alone. -/
theorem queue_of_dispatch (h : t.In requeuing policy) :
    t.dispatched.queue = t.received.queue := by
  refine h.dispatch.preserves (P := fun b => b.queue = t.received.queue) ?_ rfl
  intro q b a b' answered same
  exact answered.2.trans same

/-- **A settled record** is gone, or comes next. -/
theorem settled_eq (h : t.In requeuing policy) :
    t.settled = if t.disposition.shouldAck then t.dispatched else
      { t.dispatched with queue := t.record.again :: t.dispatched.queue } := by
  obtain ⟨-, settle⟩ := h
  generalize t.disposition = disposition, t.settlement = settlement, t.settled = settled at settle
  cases settle with
  | acknowledged notes final asked => rw [final, if_pos rfl]; exact asked
  | rewound notes waited asked =>
    obtain ⟨-, rfl⟩ := waited
    exact asked.2
  | left waited => cases waited.1

/-- A dispatch lets the store grow, and settling the record does nothing to it. -/
theorem grows_of_treatment (h : t.In requeuing policy) :
    Grows t.received.memory t.dispatched.memory ∧ t.settled.memory = t.dispatched.memory := by
  constructor
  · exact grows_of_passage (fun _ _ _ _ answered => grows_of_requeuing answered) h.dispatch
  · rw [settled_eq h]
    split <;> rfl

/-- **The effect of a treatment**, and the verdict behind it. -/
theorem effect_of_treatment (h : t.In requeuing policy) {l : List Message}
    (records : t.received.memory.Records l) :
    Effect t.record t.received.memory t.disposition (Dispatch.letters t.talk)
      t.dispatched.memory := by
  have allows : ∀ q b a b', requeuing (.dispatch q) b a b' →
      faultyDispatch q b.memory a b'.memory := fun _ _ _ _ answered => answered.1
  have effect := Dispatch.effect_of_dispatch records (h.dispatch.map allows)
  rwa [Dispatch.letters_mapState] at effect

/-- **The verdict in a treatment** on what came of its pipeline. -/
theorem verdict_of_treatment (h : t.In requeuing policy) :
    ∃ piped result mid, piped <+: t.talk ∧
      Passage (fun q => requeuing (.dispatch q)) (Dispatch.pipeline t.record) t.received piped
        result mid ∧
      Verdict policy t.record result t.disposition (Dispatch.letters t.talk)
        (Dispatch.refusals t.talk) := by
  have alone : Dispatch.StoreOnly fun q => requeuing (.dispatch q) := by
    intro q b a b' aside answered
    have memory := Dispatch.faultyDispatch_storeOnly q b.memory a b'.memory aside answered.1
    have queue := answered.2
    cases b
    cases b'
    cases memory
    cases queue
    rfl
  obtain ⟨piped, result, pre, pipes, -, verdict⟩ :=
    Dispatch.verdict_of_dispatch alone h.dispatch
  exact ⟨piped, result, _, pre, pipes, verdict⟩

/-! ### What is served, and what is left -/

section

variable {σ : Type}

/-- **Records are served** from a queue one after the other, a record that is to be tried again
before all others. -/
inductive Served (W : World api σ) (policy : RetryPolicy) :
    List Record → List (Treatment σ) → List Record → Prop where
  | none {queue : List Record} : Served W policy queue [] queue
  | settled {t : Treatment σ} {queue queue' : List Record} {ts : List (Treatment σ)}
      (treats : t.In W policy) (final : t.disposition.shouldAck = true)
      (rest : Served W policy queue ts queue') :
      Served W policy (t.record :: queue) (t :: ts) queue'
  | again {t : Treatment σ} {queue queue' : List Record} {ts : List (Treatment σ)}
      (treats : t.In W policy) (left : t.disposition.shouldAck = false)
      (rest : Served W policy (t.record.again :: queue) ts queue') :
      Served W policy (t.record :: queue) (t :: ts) queue'

theorem Served.treats {W : World api σ} {policy : RetryPolicy} {queue queue' : List Record}
    {ts : List (Treatment σ)} (h : Served W policy queue ts queue') : ∀ t ∈ ts, t.In W policy := by
  induction h with
  | none => simp
  | settled treats _ _ ih | again treats _ _ ih => exact List.forall_mem_cons.2 ⟨treats, ih⟩

end

/-- **What turns do with a queue**: they serve records from it until it is empty, or as long as
there are turns left. -/
theorem served_of_turns {limit : Nat} {w : Worker} {b b' : Backlog} {l : List Message}
    {events : List (Event Backlog)} {result : Option WorkerSummary} (records : b.memory.Records l)
    (h : Passage requeuing (turns policy limit w) b events result b') :
    ∃ ts, Served requeuing policy b.queue ts b'.queue ∧
      deeds events = (ts.flatMap fun t => deeds t.events) ∧
      (∀ t ∈ ts, (∃ l, t.received.memory.Records l) ∧ Grows t.dispatched.memory b'.memory) ∧
      (result = none → limit = ts.length + faults events) ∧
      (result.isSome → b'.queue = []) := by
  induction limit generalizing w b l events with
  | zero =>
    obtain ⟨rfl, rfl, rfl⟩ := Dialogue.passage_done_iff.1 h
    exact ⟨[], .none, rfl, by simp, fun _ => rfl, by simp⟩
  | succ limit ih =>
    obtain ⟨first, later, next, mid, rfl, turn, follows⟩ := turn_of_turns h
    -- nobody stops the worker, so that only an empty queue ends its work
    cases turned_of_turn turn with
    | stopped stops => cases stops.1
    | signalled going signals => exact signals.elim
    | abandoned going ends => exact ends.elim
    | closed going closes =>
      cases follows
      obtain ⟨-, rfl⟩ := going
      obtain ⟨empty, rfl⟩ := closes
      exact ⟨[], .none, rfl, by simp, by simp, fun _ => empty⟩
    | faulted notes going faulty waits =>
      obtain ⟨-, rfl⟩ := going
      obtain rfl := faulty
      obtain ⟨-, rfl⟩ := waits
      cases follows with
      | further rest =>
        obtain ⟨ts, served, same, grown, turns, empty⟩ := ih records rest
        refine ⟨ts, served, by simpa using same, grown, fun none => ?_, empty⟩
        rw [faults_append, faults_faulted, turns none]
        omega
    | @treated mid t w' notes going receives treats counts =>
      obtain ⟨-, rfl⟩ := going
      obtain ⟨queue, memory⟩ := receives
      cases follows with
      | further rest =>
        have recorded : t.received.memory.Records l := memory ▸ records
        obtain ⟨grown, same⟩ := grows_of_treatment treats
        obtain ⟨k, records'⟩ := grown l recorded
        obtain ⟨ts, served, deeded, grows, turns, empty⟩ := ih (same ▸ records') rest
        refine ⟨t :: ts, ?serves, ?deeds, ?grows, fun none => ?turns, empty⟩
        case serves =>
          -- what is settled leaves the queue, and what is put back is again its head
          rw [settled_eq treats] at served
          rw [queue, ← queue_of_dispatch treats]
          cases final : t.disposition.shouldAck with
          | true => exact .settled treats final (by simpa [final] using served)
          | false => exact .again treats final (by simpa [final] using served)
        case deeds => rw [deeds_append, deeds_treated, deeded, List.flatMap_cons]
        case grows =>
          have grown' := grows_of_passage (fun _ _ _ _ answered => grows_of_requeuing answered) rest
          exact List.forall_mem_cons.2 ⟨⟨⟨l, recorded⟩, same ▸ grown'⟩, grows⟩
        case turns =>
          rw [faults_append, faults_treated mid notes treats, turns none, List.length_cons]
          omega

/-! ### The budget -/

/-- **The most dispatches that a record has left**, those not counted in which its letter is
refused. -/
def allowance (policy : RetryPolicy) (record : Record) : Nat :=
  max 1 (policy.maxAttempts + 1 - record.attempt)

/-- What the records of a queue have left, all together. -/
def allowances (policy : RetryPolicy) : List Record → Nat
  | [] => 0
  | record :: rest => allowance policy record + allowances policy rest

theorem allowance_again_le (policy : RetryPolicy) (record : Record) :
    allowance policy record.again ≤ allowance policy record := by
  simp only [allowance, Record.again]
  omega

/-- Within the budget each dispatch takes one of those that are left. -/
theorem allowance_again_lt {record : Record}
    (within : Dispatch.attemptOf record < policy.maxAttempts) :
    allowance policy record.again + 1 ≤ allowance policy record := by
  have counted : max record.attempt 1 < policy.maxAttempts := within
  simp only [allowance, Record.again]
  omega

/-- **A record that is put back** has used up a dispatch, or had its letter refused. -/
theorem allowance_of_left {record : Record} {result : Except (Stage × Failure) Outcome}
    {disposition : Disposition} {recorded : List Letter} {refused : Nat}
    (verdict : Verdict policy record result disposition recorded refused)
    (left : disposition.shouldAck = false) :
    allowance policy record.again + 1 ≤ allowance policy record + refused := by
  cases verdict with
  | stored | lettered => cases left
  | refused => exact Nat.succ_le_succ (allowance_again_le policy record)
  | postponed factor further =>
    have within := Dispatch.attemptOf_lt_of_not_final further
    exact allowance_again_lt within

/-- **What is served and what is left to serve** does not exceed what was allowed, and the
letters that were refused. -/
theorem length_add_le_of_served {queue queue' : List Record} {ts : List (Treatment Backlog)}
    (h : Served requeuing policy queue ts queue') :
    ts.length + allowances policy queue' ≤
      allowances policy queue + Dispatch.refusals (ts.flatMap (·.talk)) := by
  induction h with
  | none => simp
  | @settled t _ _ _ _ _ _ ih =>
    have one : 1 ≤ allowance policy t.record := Nat.le_max_left ..
    simp only [allowances, List.length_cons, List.flatMap_cons, Dispatch.refusals_append]
    omega
  | again treats left _ ih =>
    obtain ⟨_, _, _, -, -, verdict⟩ := verdict_of_treatment treats
    have less := allowance_of_left verdict left
    simp only [allowances, List.length_cons, List.flatMap_cons, Dispatch.refusals_append] at ih ⊢
    omega

/-- A queue of records that are delivered for the first time. -/
theorem allowances_of_first {queue : List Record} (first : ∀ r ∈ queue, r.attempt = 1) :
    allowances policy queue = queue.length * max 1 policy.maxAttempts := by
  induction queue with
  | nil => exact (Nat.zero_mul _).symm
  | cons r rest ih =>
    obtain ⟨one, others⟩ := List.forall_mem_cons.1 first
    rw [allowances, ih others, allowance, one, Nat.add_sub_cancel, List.length_cons,
      Nat.succ_mul, Nat.add_comm]

/-! ### Stories -/

section

variable {σ : Type}

/-- **The story of a record**: its treatments after which it was put back, and the last one. -/
structure Story (σ : Type) where
  tries : List (Treatment σ)
  last : Treatment σ

namespace Story

/-- All treatments of a story. -/
def treatments (s : Story σ) : List (Treatment σ) := s.tries ++ [s.last]

/-- How often the record's letter was refused. -/
def refusals (s : Story σ) : Nat := Dispatch.refusals (s.treatments.flatMap (·.talk))

/-- The letters that were recorded of it. -/
def letters (s : Story σ) : List Letter := Dispatch.letters (s.treatments.flatMap (·.talk))

/-- **A story is of a record**: it is put back, each time with one attempt more, until it is
settled. -/
inductive Of (W : World api σ) (policy : RetryPolicy) : Record → Story σ → Prop where
  | settled {t : Treatment σ} (treats : t.In W policy) (final : t.disposition.shouldAck = true) :
      Of W policy t.record ⟨[], t⟩
  | again {t : Treatment σ} {s : Story σ} (treats : t.In W policy)
      (left : t.disposition.shouldAck = false) (rest : Of W policy t.record.again s) :
      Of W policy t.record ⟨t :: s.tries, s.last⟩

end Story

/-- **What is served until nothing is left** are stories, one for each record of the queue. -/
theorem stories_of_served {W : World api σ} {policy : RetryPolicy} {queue queue' : List Record}
    {ts : List (Treatment σ)} (h : Served W policy queue ts queue') (empty : queue' = []) :
    ∃ stories, List.Forall₂ (Story.Of W policy) queue stories ∧
      ts = stories.flatMap Story.treatments := by
  induction h with
  | none =>
    subst empty
    exact ⟨[], .nil, rfl⟩
  | @settled t _ _ _ treats final _ ih =>
    obtain ⟨stories, of, rfl⟩ := ih empty
    exact ⟨⟨[], t⟩ :: stories, .cons (.settled treats final) of, rfl⟩
  | @again t _ _ _ treats left _ ih =>
    obtain ⟨stories, of, rfl⟩ := ih empty
    cases of with
    | @cons _ story _ stories head rest =>
      exact ⟨⟨t :: story.tries, story.last⟩ :: stories, .cons (.again treats left head) rest, rfl⟩

end

/-- **A treatment fails recoverably**: the pipeline comes to a failure that another delivery may
help. -/
def Treatment.FailsRecoverably (t : Treatment Backlog) : Prop :=
  ∃ piped failed mid, piped <+: t.talk ∧
    Passage (fun q => requeuing (.dispatch q)) (Dispatch.pipeline t.record) t.received piped
      (.error failed) mid ∧
    failed.2.failureClass = .recoverable

/-- The verdict on a treatment that fails recoverably is one on such a failure. -/
theorem verdict_of_failing (h : t.In requeuing policy) (fails : t.FailsRecoverably) :
    ∃ stage failure, failure.failureClass = .recoverable ∧
      Verdict policy t.record (.error (stage, failure)) t.disposition (Dispatch.letters t.talk)
        (Dispatch.refusals t.talk) := by
  obtain ⟨piped, result, mid, pre, pipes, verdict⟩ := verdict_of_treatment h
  obtain ⟨piped', ⟨stage, failure⟩, mid', pre', pipes', recoverable⟩ := fails
  obtain ⟨-, rfl⟩ := pipes'.eq_of_prefix pipes pre' pre
  exact ⟨stage, failure, recoverable, verdict⟩

/-- A record whose budget is used up has one dispatch left. -/
theorem allowance_of_exhausted {record : Record}
    (exhausted : policy.maxAttempts ≤ Dispatch.attemptOf record) (counted : 1 ≤ record.attempt) :
    allowance policy record = 1 := by
  have bound : policy.maxAttempts ≤ max record.attempt 1 := exhausted
  simp only [allowance]
  omega

section

variable {record : Record} {stage : Stage} {failure : Failure} {disposition : Disposition}
  {recorded : List Letter} {refused : Nat}

/-- **A record that fails and is put back** has used up just one dispatch, or had its letter
refused. -/
theorem allowance_of_failing
    (verdict : Verdict policy record (.error (stage, failure)) disposition recorded refused)
    (recoverable : failure.failureClass = .recoverable) (left : disposition.shouldAck = false)
    (counted : 1 ≤ record.attempt) :
    allowance policy record.again + 1 = allowance policy record + refused := by
  cases verdict with
  | lettered => cases left
  | refused factor final =>
    have exhausted := (Dispatch.isFinal_iff_of_recoverable recoverable).1 final
    have bound : policy.maxAttempts ≤ max record.attempt 1 := exhausted
    have later : policy.maxAttempts ≤ max (record.attempt + 1) 1 := by omega
    rw [allowance_of_exhausted exhausted counted,
      allowance_of_exhausted later (Nat.le_add_left ..)]
  | postponed factor further =>
    have within := Dispatch.attemptOf_lt_of_not_final further
    have bound : max record.attempt 1 < policy.maxAttempts := within
    simp only [allowance, Record.again]
    omega

/-- **A record that fails and is settled** has its budget used up, and is dead-lettered for
that. -/
theorem exhausted_of_failing
    (verdict : Verdict policy record (.error (stage, failure)) disposition recorded refused)
    (recoverable : failure.failureClass = .recoverable) (final : disposition.shouldAck = true) :
    policy.maxAttempts ≤ Dispatch.attemptOf record ∧ refused = 0 ∧
      disposition =
        .deadLettered .retriesExhausted .recoverable (Dispatch.attemptOf record) := by
  cases verdict with
  | refused | postponed => cases final
  | lettered failedAt spent =>
    refine ⟨(Dispatch.isFinal_iff_of_recoverable recoverable).1 spent, rfl, ?_⟩
    rw [Dispatch.finalReason, recoverable]

end

namespace Story

variable {s : Story Backlog} {r : Record}

/-- Every treatment but the last puts the record back. -/
theorem Of.treats (h : s.Of requeuing policy r) :
    (∀ t ∈ s.tries, t.In requeuing policy ∧ t.disposition.shouldAck = false) ∧
      s.last.In requeuing policy ∧ s.last.disposition.shouldAck = true := by
  induction h with
  | settled treats final => exact ⟨by simp, treats, final⟩
  | again treats left _ ih => exact ⟨List.forall_mem_cons.2 ⟨⟨treats, left⟩, ih.1⟩, ih.2⟩

/-- **The deliveries of a record** are the same but for their attempts, which are counted. -/
theorem Of.deliveries (h : s.Of requeuing policy r) :
    s.treatments.map (·.record) =
      (List.range' r.attempt s.treatments.length).map fun k => { r with attempt := k } := by
  induction h with
  | settled => rfl
  | again _ _ _ ih => exact congrArg (_ :: ·) ih

/-- The story of a record serves a queue of that record alone. -/
theorem Of.served (h : s.Of requeuing policy r) : Served requeuing policy [r] s.treatments [] := by
  induction h with
  | settled treats final => exact .settled treats final .none
  | again treats left _ ih => exact .again treats left ih

/-- **The dispatches of a record** do not exceed its budget but for letters that were refused. -/
theorem Of.length_le (h : s.Of requeuing policy r) :
    s.treatments.length ≤ allowance policy r + s.refusals :=
  length_add_le_of_served h.served

/-- **A record that fails whenever it is dispatched** uses up its budget, and is dead-lettered as
soon as a letter is not refused. -/
theorem Of.exhausted (h : s.Of requeuing policy r) (counted : 1 ≤ r.attempt)
    (fails : ∀ t ∈ s.treatments, t.FailsRecoverably) :
    s.treatments.length = allowance policy r + s.refusals ∧
      s.last.disposition = .deadLettered .retriesExhausted .recoverable
        (Dispatch.attemptOf s.last.record) := by
  induction h with
  | @settled t treats final =>
    obtain ⟨stage, failure, recoverable, verdict⟩ := verdict_of_failing treats (fails t (.head _))
    obtain ⟨exhausted, unrefused, lettered⟩ := exhausted_of_failing verdict recoverable final
    refine ⟨?_, lettered⟩
    rw [allowance_of_exhausted exhausted counted]
    simp [treatments, refusals, unrefused]
  | @again t s treats left _ ih =>
    obtain ⟨length, lettered⟩ := ih (Nat.le_add_left ..) fun t mem => fails t (.tail _ mem)
    obtain ⟨stage, failure, recoverable, verdict⟩ := verdict_of_failing treats (fails t (.head _))
    have used := allowance_of_failing verdict recoverable left counted
    refine ⟨?_, lettered⟩
    simp only [treatments, refusals, List.cons_append, List.length_cons, List.flatMap_cons,
      Dispatch.refusals_append] at length ⊢
    omega

/-- What is recorded of a record is what its last dispatch recorded. -/
theorem Of.letters_eq (h : s.Of requeuing policy r) :
    s.letters = Dispatch.letters s.last.talk := by
  have none : (s.tries.flatMap fun t => Dispatch.letters t.talk) = [] :=
    List.flatMap_eq_nil_iff.2 fun t mem => by
      obtain ⟨treats, left⟩ := h.treats.1 t mem
      obtain ⟨_, _, _, -, -, verdict⟩ := verdict_of_treatment treats
      exact verdict.letters_of_left left
  rw [letters, treatments, Dispatch.letters_flatMap, List.flatMap_append, none, List.nil_append,
    List.flatMap_singleton]

/-- The record of the last treatment. -/
theorem Of.last_record (h : s.Of requeuing policy r) :
    s.last.record = { r with attempt := r.attempt + s.tries.length } := by
  induction h with
  | settled => rfl
  | again _ _ _ ih =>
    rw [ih, List.length_cons, ← Nat.add_assoc, Nat.add_right_comm]
    rfl

/-- **How the story of a record ends**, `rows` being what is in the store when the run is over. -/
structure Settles (policy : RetryPolicy) (rows : List Message) (r : Record) (s : Story Backlog) :
    Prop where
  of : s.Of requeuing policy r
  /-- The attempts of its deliveries are counted from one on. -/
  deliveries : s.treatments.map (·.record) =
    (List.range' 1 s.treatments.length).map fun k => { r with attempt := k }
  /-- The last delivery is the one that is acknowledged. -/
  settled : s.last.record = { r with attempt := s.treatments.length }
  /-- It is dispatched within its budget, but for letters that were refused. -/
  bounded : s.treatments.length ≤ max 1 policy.maxAttempts + s.refusals
  /-- It is stored without a letter, or dead-lettered with one that says how often it was
  dispatched. -/
  outcome : (∃ o, s.last.disposition = .acked o ∧ o.message ∈ rows ∧ IsOf r o.message ∧
      s.letters = []) ∨
    ∃ letter, s.last.disposition =
        .deadLettered letter.failureReason letter.failureClass letter.attemptCount ∧
      s.letters = [letter] ∧ IsFrom r letter ∧ letter.attemptCount = s.treatments.length
  /-- If it fails each time, its budget is used up, and it is dead-lettered for that. -/
  exhausted : (∀ t ∈ s.treatments, t.FailsRecoverably) →
    s.treatments.length = max 1 policy.maxAttempts + s.refusals ∧
      s.last.disposition =
        .deadLettered .retriesExhausted .recoverable s.treatments.length

/-- **The story of a record that was delivered for the first time.** -/
theorem Of.settles (h : s.Of requeuing policy r) (first : r.attempt = 1) {m : Memory}
    {l : List Message} (records : s.last.received.memory.Records l)
    (grown : Grows s.last.dispatched.memory m) : s.Settles policy m.rows r := by
  have budget : allowance policy r = max 1 policy.maxAttempts := by
    rw [allowance, first, Nat.add_sub_cancel]
  have length : s.treatments.length = s.tries.length + 1 := by simp [treatments]
  have settled : s.last.record = { r with attempt := s.treatments.length } := by
    rw [h.last_record, length, first, Nat.add_comm]
  have attempt : Dispatch.attemptOf s.last.record = s.treatments.length := by
    rw [settled, length]
    exact Nat.max_eq_left (Nat.le_add_left ..)
  obtain ⟨-, treats, final⟩ := h.treats
  refine ⟨h, first ▸ h.deliveries, settled, budget ▸ h.length_le, ?outcome,
    fun fails => ?exhausted⟩
  case exhausted =>
    obtain ⟨counted, lettered⟩ := h.exhausted (Nat.le_of_eq first.symm) fails
    exact ⟨budget ▸ counted, attempt ▸ lettered⟩
  case outcome =>
    obtain ⟨kept, -⟩ := grows_of_treatment treats
    have counted : ∀ {reason failureClass attempts},
        s.last.disposition = .deadLettered reason failureClass attempts →
          attempts = s.treatments.length := fun eq => by
      obtain ⟨_, _, _, -, -, verdict⟩ := verdict_of_treatment treats
      exact (eq ▸ verdict).attempt_of_lettered.trans attempt
    have effect := effect_of_treatment treats records
    rw [h.last_record] at effect
    rw [h.letters_eq]
    generalize s.last.disposition = disposition, Dispatch.letters s.last.talk = recorded,
      s.last.dispatched.memory = stored at effect final counted kept grown ⊢
    obtain ⟨k, records'⟩ := kept l records
    cases effect with
    | added adds isOf =>
      have mem := grown.rows records' (adds.rows.mem_iff.2 (.head _))
      exact .inl ⟨_, rfl, mem, isOf, rfl⟩
    | found mem isOf => exact .inl ⟨_, rfl, grown.rows records mem, isOf, rfl⟩
    | lettered isFrom => exact .inr ⟨_, rfl, rfl, isFrom, counted rfl⟩
    | left => cases final

end Story

/-- In a story only the last treatment settles the record. -/
theorem filter_treatments {s : Story Backlog} {r : Record} (h : s.Of requeuing policy r) :
    s.treatments.filter (·.disposition.shouldAck) = [s.last] := by
  obtain ⟨tries, -, final⟩ := h.treats
  have none : s.tries.filter (·.disposition.shouldAck) = [] :=
    List.filter_eq_nil_iff.2 fun t mem => by simp [(tries t mem).2]
  rw [Story.treatments, List.filter_append, none, List.nil_append]
  exact List.filter_cons_of_pos final

theorem filter_stories {queue : List Record} {stories : List (Story Backlog)}
    (h : List.Forall₂ (fun r s => s.Of requeuing policy r) queue stories) :
    (stories.flatMap Story.treatments).filter (·.disposition.shouldAck) =
      stories.map (·.last) := by
  induction h with
  | nil => rfl
  | cons head _ ih =>
    rw [List.flatMap_cons, List.filter_append, filter_treatments head, ih]
    rfl

/-- Stories that are complete end as they should. -/
theorem settles_stories {queue : List Record} {stories : List (Story Backlog)} {m : Memory}
    (h : List.Forall₂ (fun r s => s.Of requeuing policy r) queue stories)
    (first : ∀ r ∈ queue, r.attempt = 1)
    (ends : ∀ s ∈ stories, (∃ l, s.last.received.memory.Records l) ∧
      Grows s.last.dispatched.memory m) :
    List.Forall₂ (Story.Settles policy m.rows) queue stories := by
  induction h with
  | nil => exact .nil
  | @cons r s _ _ head _ ih =>
    obtain ⟨one, others⟩ := List.forall_mem_cons.1 first
    obtain ⟨⟨⟨l, records⟩, grown⟩, later⟩ := List.forall_mem_cons.1 ends
    exact .cons (head.settles one records grown) (ih others later)

/-- **A run settles its queue.** A worker over a source that takes records back, from a queue of
records that are delivered for the first time, whatever fails: it dispatches at most as often as
the budgets of the records allow, and once more for each letter that is refused. With so many
turns and one for each fault of the source it comes to its end, and then the records have had
their stories one after the other, in the order of the queue, each with one acknowledgement at
its end; nothing else was done with records, and no other letter was recorded. -/
theorem run_settles_queue (policy : RetryPolicy) (id limit : Nat) {queue : List Record}
    (first : ∀ r ∈ queue, r.attempt = 1) (operations : List Operation) :
    let b : Backlog := ⟨queue, after Memory.perform .empty operations⟩
    (∃ events result b', Passage requeuing (run policy id limit) b events result b') ∧
      ∀ events result b', Passage requeuing (run policy id limit) b events result b' →
        (received events).length ≤
            queue.length * max 1 policy.maxAttempts + Dispatch.refusals (talk events) ∧
        (queue.length * max 1 policy.maxAttempts + Dispatch.refusals (talk events) +
            faults events < limit → result.isSome) ∧
        (result.isSome → ∃ stories : List (Story Backlog),
          List.Forall₂ (Story.Settles policy b'.memory.rows) queue stories ∧
          deeds events =
            ((stories.flatMap Story.treatments).flatMap fun t => deeds t.events) ∧
          acknowledged events = stories.map (·.last.record) ∧
          Dispatch.letters (talk events) = stories.flatMap Story.letters) := by
  intro b
  refine ⟨Dialogue.exists_passage requeuing_total _ _, fun events result b' h => ?_⟩
  obtain ⟨note, mark, later, rfl, turns⟩ := turns_of_run h
  obtain ⟨-, records⟩ := Store.Memory.records_empty.performs operations
  obtain ⟨ts, served, same, ends, unended, empty⟩ := served_of_turns records turns
  obtain ⟨lettered, refused, receives, acknowledges⟩ := read_treatments served.treats same
  have most : ts.length ≤
      queue.length * max 1 policy.maxAttempts + Dispatch.refusals (talk later) := by
    have bound := length_add_le_of_served served
    rw [allowances_of_first first, ← refused] at bound
    exact Nat.le_of_add_right_le bound
  refine ⟨?dispatches, ?ends, fun finished => ?stories⟩
  case dispatches =>
    change (received later).length ≤ _
    rw [receives, List.length_map]
    exact most
  case ends =>
    intro enough
    change _ + Dispatch.refusals (talk later) + faults later < limit at enough
    cases result with
    | some summary => rfl
    | none =>
      -- a worker that is not done has had a fault or a dispatch in each of its turns
      have used := unended rfl
      omega
  case stories =>
    obtain ⟨stories, of, rfl⟩ := stories_of_served served (empty finished)
    have lasts : ∀ s ∈ stories, s.last ∈ stories.flatMap Story.treatments := fun s mem =>
      List.mem_flatMap.2 ⟨s, mem, List.mem_append_right _ (.head _)⟩
    refine ⟨stories, settles_stories of first fun s mem => ends _ (lasts s mem), same, ?_, ?_⟩
    · change acknowledged later = _
      rw [acknowledges, filter_stories of, List.map_map]
      rfl
    · change Dispatch.letters (talk later) = _
      rw [lettered, List.flatMap_assoc, Dispatch.letters_flatMap]
      rfl

/-- **A letter that is refused once** is published at the next delivery. The record before it was
stored. -/
theorem refused_letter_is_published :
    ∃ (record : Record) (events : List (Event Backlog)) (b' : Backlog) (kept sent : Story Backlog),
      let policy := { RetryPolicy.default with maxAttempts := 0 }
      Passage requeuing (run policy 0 4) ⟨[Dispatch.greeting 6, record], .empty⟩ events
          (some ⟨1, 1, 1⟩) b' ∧
        kept.Settles policy b'.memory.rows (Dispatch.greeting 6) ∧
        sent.Settles policy b'.memory.rows record ∧
        acknowledged events = [kept.last.record, sent.last.record] ∧
        (received events).length ≤ 2 + Dispatch.refusals (talk events) ∧
        Store.entry [] Dispatch.greetingAccepted ∈ b'.memory.rows := by
  let record : Record := ⟨"chat", 0, 7, none, none, 1⟩
  let policy : RetryPolicy := { RetryPolicy.default with maxAttempts := 0 }
  let row := Store.entry [] Dispatch.greetingAccepted
  let memory := Memory.empty.add Dispatch.greetingAccepted row
  have going : ∀ b, requeuing .isStopping b false b := fun _ => ⟨rfl, rfl⟩
  have receives : ∀ r q m, requeuing .receive ⟨r :: q, m⟩ (.record r) ⟨q, m⟩ :=
    fun _ _ _ => ⟨rfl, rfl⟩
  have closes : requeuing .receive ⟨[], memory⟩ .closed ⟨[], memory⟩ := ⟨rfl, rfl⟩
  have now : ∀ b, requeuing (.dispatch .now) b Timestamp.epoch b := fun _ => ⟨rfl, rfl⟩
  have missing : requeuing (.dispatch (.store (.findByEventId "e1"))) ⟨[record], .empty⟩
      (.ok none) ⟨[record], .empty⟩ :=
    ⟨.inl (by simp [Memory.answer, Memory.findByEventId, Memory.empty]), rfl⟩
  have takes : requeuing (.dispatch (.store (.insert Dispatch.greetingAccepted)))
      ⟨[record], .empty⟩ (.ok row) ⟨[record], memory⟩ := ⟨.inl (Memory.insert_empty _).symm, rfl⟩
  have publish : ∀ r letter a b, requeuing (.dispatch (.publish r letter)) b a b :=
    fun _ _ _ _ => ⟨rfl, rfl⟩
  have waits : ∀ d b, requeuing (.rest d) b .elapsed b := fun _ _ => ⟨rfl, rfl⟩
  have rewinds : ∀ r b, requeuing (.nack r) b (.ok ()) { b with queue := r.again :: b.queue } :=
    fun _ _ => ⟨rfl, rfl⟩
  have acks : ∀ r b, requeuing (.ack r) b (.ok ()) b := fun _ _ => rfl
  have stored := Dispatch.exists_passage_storing (W := fun q => requeuing (.dispatch q)) policy
    (Dispatch.read_greeting 6) Dispatch.accept_greeting rfl (now _) missing takes
  have others : ∃ events, Passage requeuing
      (turns policy 3 ((fresh 0).count (.acked ⟨row, false⟩))) ⟨[record], memory⟩ events
      (some ⟨1, 1, 1⟩) ⟨[], memory⟩ :=
    ⟨_, .ask (going _) <| .ask (receives record _ _) <| .tell <| .tell <| .tell <|
      .ask (now _) <| .ask (publish _ _ (.error (.letterUnpublished "broker down")) _) <| .tell <|
      .tell <| .tell <| .tell <| .tell <| .ask (waits _ _) <| .ask (rewinds _ _) <|
      .ask (going _) <| .ask (receives record.again _ _) <| .tell <| .tell <| .tell <|
      .ask (now _) <| .ask (publish _ _ (.ok ()) _) <| .tell <| .tell <| .tell <|
      .ask (acks _ _) <| .ask (going _) <| .ask closes <| .tell <| .tell .done⟩
  obtain ⟨events, turns⟩ := exists_passage_turns
    (exists_passage_acknowledging (fresh 0) (going _) (receives _ _ _) stored rfl (acks _ _)) others
  have ran : ∃ events, Passage requeuing (run policy 0 4)
      ⟨[Dispatch.greeting 6, record], .empty⟩ events (some ⟨1, 1, 1⟩) ⟨[], memory⟩ :=
    ⟨_, .tell (.tell turns)⟩
  obtain ⟨events, passage⟩ := ran
  have first : ∀ r ∈ [Dispatch.greeting 6, record], r.attempt = 1 := by
    simp [record, Dispatch.greeting]
  obtain ⟨most, -, told⟩ := (run_settles_queue policy 0 4 first []).2 _ _ _ passage
  obtain ⟨stories, settles, -, acknowledges, -⟩ := told rfl
  have records : memory.Records ([] ++ [row]) := Memory.records_empty.add (by simp)
  have listed : row ∈ memory.rows := records.mem_rows.2 (.head _)
  cases settles with
  | cons kept rest =>
    cases rest with
    | cons sent rest =>
      cases rest
      exact ⟨record, events, _, _, _, passage, kept, sent, acknowledges, most, listed⟩

end MessageIntake.Worker
