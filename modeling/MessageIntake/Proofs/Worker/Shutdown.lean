import MessageIntake.Proofs.Worker.Turns
import MessageIntake.Proofs.Worker.Watch
/-!
# Stopping a worker

A worker among surroundings in which the stop comes at some moment, for good: the signal is set on,
or its holder goes away.

Main statement: whenever the stop comes, the record at hand is dispatched and settled as it would
have been, but that its wait may be cut short, and no further one is received
(`stops_gracefully`).
-/

namespace MessageIntake.Worker

open Dialogue (Passage)
open Watch (Fits Passes)

variable {stop : Nat} {policy : RetryPolicy} {s s' : Watch} {t : Treatment Watch}

/-- **A treatment is graceful** if the record was received before the stop and its whole dispatch
and settlement followed: it is acknowledged just once, and not asked for again, if it was to be
acknowledged; and else it is not acknowledged, and is asked for again at most once: for certain if
its wait was over before the stop, and not at all if it was to wait beyond the stop. -/
structure Graceful (stop : Nat) (policy : RetryPolicy) (t : Treatment Watch) : Prop where
  received : t.received.stopped = false ∧ t.received.now ≤ stop
  dispatched : Passage (fun q => stoppable stop (.dispatch q)) (Dispatch.dispatch policy t.record)
    t.received t.talk t.disposition t.dispatched
  acked : t.disposition.shouldAck = true →
    ∃ answer state, deeds t.settlement = [.answered (.ack t.record) answer state]
  retried : ∀ delay attempt reason, t.disposition = .retry delay attempt reason →
    let rewound := ∃ answer state, deeds t.settlement = [.answered (.nack t.record) answer state]
    (rewound ∨ deeds t.settlement = []) ∧
      (t.dispatched.now + delay.nanos < stop → rewound) ∧
      (0 < delay.nanos → stop < t.dispatched.now + delay.nanos → deeds t.settlement = [])

/-- What is to be acknowledged is acknowledged, once, whatever has come in between. -/
theorem deeds_of_final {W : World api Watch} {record : Record} {disposition : Disposition}
    {events : List (Event Watch)} (h : Settled W record s disposition events s')
    (final : disposition.shouldAck = true) :
    ∃ answer state, deeds events = [.answered (.ack record) answer state] := by
  cases h with
  | @acknowledged _ answer _ notes => exact ⟨answer, s', by simp⟩
  | rewound | left => cases final

/-- **A record that is to be tried again** is asked for when its wait has elapsed, and not if the
stop has come first. -/
theorem deeds_of_retry {record : Record} {delay : Span} {attempt : Nat} {reason : Reason}
    {events : List (Event Watch)} (fits : Fits stop s)
    (h : Settled (stoppable stop) record s (.retry delay attempt reason) events s') :
    let rewound := ∃ answer state, deeds events = [.answered (.nack record) answer state]
    (rewound ∨ deeds events = []) ∧ (s.now + delay.nanos < stop → rewound) ∧
      (0 < delay.nanos → stop < s.now + delay.nanos → deeds events = []) := by
  intro rewound
  cases h with
  | acknowledged _ final => cases final
  | @rewound _ _ _ _ _ _ answer notes waited =>
    have asked : rewound := ⟨answer, s', by simp⟩
    refine ⟨.inl asked, fun _ => asked, fun positive late => ?_⟩
    have inTime := Watch.Awaits.elapses waited rfl (.inl rfl) fits
    omega
  | left waited =>
    refine ⟨.inr rfl, fun early => ?_, fun _ _ => rfl⟩
    have inTime := Watch.Awaits.interrupts waited rfl (Nat.le_add_right ..) fits
    omega

/-- **Every treatment is graceful.** -/
theorem graceful_of_treatment {mid : Watch} (fits : Fits stop s)
    (going : stoppable stop .isStopping s false mid)
    (receives : stoppable stop .receive mid (.record t.record) t.received)
    (treats : t.In (stoppable stop) policy) : Graceful stop policy t := by
  have fits' : Fits stop t.received := fits_of_stoppable receives (fits_of_stoppable going fits)
  have inTime : t.received.stopped = false := received_in_time going receives
  have fits'' : Fits stop t.dispatched :=
    treats.dispatch.preserves (fun _ _ _ _ answered => fits_of_stoppable answered) fits'
  refine ⟨⟨inTime, by simpa [Fits, inTime] using fits'⟩, treats.dispatch,
    deeds_of_final treats.settle, fun delay attempt reason eq => ?_⟩
  have settle := treats.settle
  rw [eq] at settle
  exact deeds_of_retry fits'' settle

/-! ### How soon a worker stops -/

/-- A turn was begun before the stop. -/
def isBegun : Event Watch → Bool
  | .answered .isStopping _ s => !s.stopped
  | _ => false

/-- **How many turns were begun before the stop.** -/
def begun (events : List (Event Watch)) : Nat := events.countP isBegun

theorem lt_begun_append {mid : Watch} (going : mid.stopped = false) (a : Bool)
    (events later : List (Event Watch)) :
    begun later < begun ((.answered .isStopping a mid :: events) ++ later) := by
  have counted : isBegun (.answered .isStopping a mid) = true := by simp [isBegun, going]
  rw [begun, begun, List.countP_append, List.countP_cons_of_pos counted]
  omega

variable {limit : Nat} {w : Worker} {events : List (Event Watch)}

/-- **When the signal's holder is gone** and that is all there is to notice, the next turn is the
last. -/
theorem eq_zero_of_abandoned (gone : s.signal.abandoned = true) (seen : s.signal.fresh = false)
    (h : Passage (stoppable stop) (turns policy limit w) s events none s') : limit = 0 := by
  cases limit with
  | zero => rfl
  | succ limit =>
    obtain ⟨first, later, next, mid, rfl, turn, follows⟩ := turn_of_turns h
    -- until something is received the signal stays as it is
    have same : ∀ {t u : Watch}, stoppable stop .isStopping s false t → Passes stop t u →
        u.signal = s.signal := fun going passes =>
      Watch.Passes.signal_of_abandoned (going.1.trans passes) gone
    cases turned_of_turn turn with
    | stopped | abandoned | closed => cases follows
    | signalled going signals =>
      obtain ⟨u, passes, fresh, -⟩ := received_of_stoppable signals
      rw [same going passes, seen] at fresh
      cases fresh
    | faulted _ going receives | treated _ going receives =>
      obtain ⟨passes, -, held⟩ := received_of_stoppable receives
      rw [same going passes, gone] at held
      cases held

/-- A turn that comes to something else than news was begun before the stop. -/
theorem not_stopped_of_held {mid u : Watch} (going : stoppable stop .isStopping s false mid)
    (passes : Passes stop mid u) (held : u.signal.abandoned = false) : mid.stopped = false := by
  obtain ⟨-, off⟩ := going
  cases gone : mid.signal.abandoned with
  | false => rw [Watch.stopped, StopSignal.endsWait, gone, ← off]; rfl
  | true =>
    rw [passes.signal_of_abandoned gone, gone] at held
    cases held

/-- **A worker that is not done** has begun all its turns but one before the stop. -/
theorem le_begun (h : Passage (stoppable stop) (turns policy limit w) s events none s') :
    limit ≤ begun events + 1 := by
  induction limit generalizing w s events with
  | zero => exact Nat.zero_le _
  | succ limit ih =>
    obtain ⟨first, later, next, mid, rfl, turn, follows⟩ := turn_of_turns h
    -- a turn that was begun before the stop counts, and of the others there is but one
    have counts : ∀ {t : Watch} {a : Bool} {rest : List (Event Watch)} {w' : Worker},
        first = .answered .isStopping a t :: rest → t.stopped = false →
          Passage (stoppable stop) (turns policy limit w') mid later none s' →
            limit + 1 ≤ begun (first ++ later) + 1 := by
      rintro t a rest w' rfl going further
      have less := lt_begun_append going a rest later
      have left := ih further
      omega
    cases turned_of_turn turn with
    | stopped | abandoned | closed => cases follows
    | @signalled t _ going signals =>
      cases follows with
      | further rest =>
        cases begins : t.stopped with
        | false => exact counts rfl begins rest
        | true =>
          obtain ⟨u, passes, -, rfl⟩ := received_of_stoppable signals
          have gone : t.signal.abandoned = true := by
            simpa [Watch.stopped, StopSignal.endsWait, ← going.2] using begins
          have stays : u.noticed.signal.abandoned = true := by
            rw [← gone, ← passes.signal_of_abandoned gone]
            rfl
          have none := eq_zero_of_abandoned stays rfl rest
          omega
    | faulted _ going receives | treated _ going receives =>
      obtain ⟨passes, -, held⟩ := received_of_stoppable receives
      cases follows with
      | further rest => exact counts rfl (not_stopped_of_held going passes held) rest

/-- **A worker does not give up** unless the stop has come or the source was closed. -/
theorem stopped_or_closed {summary : WorkerSummary}
    (h : Passage (stoppable stop) (turns policy limit w) s events (some summary) s') :
    s'.stopped = true ∨ ∃ state, .answered .receive .closed state ∈ events := by
  induction limit generalizing w s events with
  | zero => cases h
  | succ limit ih =>
    obtain ⟨first, later, next, mid, rfl, turn, follows⟩ := turn_of_turns h
    have further : ∀ {w' : Worker},
        Passage (stoppable stop) (turns policy limit w') mid later (some summary) s' →
          s'.stopped = true ∨ ∃ state, .answered .receive .closed state ∈ first ++ later :=
      fun rest => (ih rest).imp_right fun ⟨state, mem⟩ => ⟨state, List.mem_append_right _ mem⟩
    cases turned_of_turn turn with
    | stopped stops =>
      cases follows
      have on : s'.signal.on = true := stops.2.symm
      exact .inl (by rw [Watch.stopped, StopSignal.endsWait, on]; rfl)
    | abandoned _ ends =>
      cases follows
      have gone : s'.signal.abandoned = true := (received_of_stoppable ends).2.2
      exact .inl (by rw [Watch.stopped, StopSignal.endsWait, gone, Bool.or_true])
    | closed =>
      cases follows
      exact .inr ⟨s', List.mem_append_left _ (.tail _ (.head _))⟩
    | signalled | faulted | treated =>
      cases follows with
      | further rest => exact further rest

/-- **With the signal on** nothing is asked for. -/
theorem not_mem_of_on (on : s.signal.on = true) {result : Option WorkerSummary}
    (h : Passage (stoppable stop) (turns policy limit w) s events result s') (arrival : Arrival)
    (state : Watch) : .answered .receive arrival state ∉ events := by
  cases limit with
  | zero =>
    obtain ⟨rfl, -, -⟩ := Dialogue.passage_done_iff.1 h
    exact List.not_mem_nil
  | succ limit =>
    obtain ⟨first, later, next, mid, rfl, turn, follows⟩ := turn_of_turns h
    have goes : ∀ {t : Watch}, ¬stoppable stop .isStopping s false t := fun going => by
      have off := going.2.trans (Watch.Passes.on going.1 on)
      cases off
    cases turned_of_turn turn with
    | stopped =>
      cases follows
      simp
    | signalled going | abandoned going | closed going | faulted _ going | treated _ going =>
      exact absurd going goes

/-- **A worker stops gracefully**, whenever the stop comes. If the signal is on at the start, the
source is never asked. What is done with records is one graceful treatment after the other: each
record that is received is received before the stop, its dispatch goes all the way, and it is
settled as came of it. The summary counts the treatments. A worker does not give up before the
stop has come or the source was closed, and a worker whose work is not over has begun all its turns
but one before the stop. -/
theorem stops_gracefully (policy : RetryPolicy) (id limit : Nat) {stop : Nat} {s s' : Watch}
    (fits : Fits stop s) {events : List (Event Watch)} {result : Option WorkerSummary}
    (h : Passage (stoppable stop) (run policy id limit) s events result s') :
    (s.signal.on = true → ∀ arrival state, .answered .receive arrival state ∉ events) ∧
      (∃ ts : List (Treatment Watch), deeds events = (ts.flatMap fun t => deeds t.events) ∧
        (∀ t ∈ ts, Graceful stop policy t) ∧
        ∀ summary, result = some summary → summary =
          ⟨settledAs .acked ts, settledAs .deadLettered ts, settledAs .leftForRetry ts⟩) ∧
      (result.isSome → s'.stopped = true ∨ ∃ state, .answered .receive .closed state ∈ events) ∧
      (result = none → limit ≤ begun events + 1) := by
  obtain ⟨note, mark, later, rfl, turns⟩ := turns_of_run h
  refine ⟨fun on => ?unasked, ?treatments, fun returned => ?reason, ?returns⟩
  case reason =>
    obtain ⟨summary, rfl⟩ := Option.isSome_iff_exists.1 returned
    simpa using stopped_or_closed turns
  case returns =>
    rintro rfl
    have bound := le_begun turns
    exact bound
  case treatments =>
    have keeps : ∀ q s a s', stoppable stop q s a s' → Fits stop s → Fits stop s' :=
      fun _ _ _ _ answered => fits_of_stoppable answered
    obtain ⟨ts, deeded, graceful, counted⟩ :=
      treatments_of_turns (Q := Graceful stop policy) keeps
        (fun _ _ _ fits going receives treats => graceful_of_treatment fits going receives treats)
        turns fits
    refine ⟨ts, deeded, graceful, fun summary eq => ?_⟩
    rw [counted summary eq]
    simp [tally, fresh]
  case unasked =>
    simpa using not_mem_of_on on turns

/-- **A stop during a dispatch** whose letter is then refused: the record before it was stored and
acknowledged, its own wait is cut short, and it is left. -/
theorem stopped_in_dispatch :
    ∃ (events : List (Event Watch)) (s' : Watch) (ts : List (Treatment Watch)),
      Passage (stoppable 5) (run .default 0 3) ⟨0, .initial false⟩ events (some ⟨1, 0, 1⟩) s' ∧
        deeds events = (ts.flatMap fun t => deeds t.events) ∧
        (∀ t ∈ ts, Graceful 5 .default t) ∧ settledAs .acked ts = 1 ∧
        settledAs .leftForRetry ts = 1 := by
  let s : Watch := ⟨0, .initial false⟩
  let s' : Watch := ⟨5, ⟨true, true, false⟩⟩
  let record : Record := ⟨"chat", 0, 7, none, none, 1⟩
  let row := Store.messageOf Dispatch.greetingAccepted 1 1
  have fits : Fits 5 s := Nat.zero_le 5
  have passes : Passes 5 s s' := by
    have tick : Watch.Step 5 s ⟨5, .initial false⟩ := .tick (Nat.zero_le 5) (Nat.le_refl 5)
    have event : Watch.Step 5 ⟨5, .initial false⟩ s' := .event (.set true) nofun (Nat.le_refl 5)
    exact (Relation.ReflTransGen.single tick).tail event
  have going : stoppable 5 .isStopping s false s := ⟨.refl, rfl⟩
  have receives : ∀ r, stoppable 5 .receive s (.record r) s := fun r =>
    Watch.receives_of_seen rfl rfl (some (.ok r))
  have now : stoppable 5 (.dispatch .now) s Timestamp.epoch s := .refl
  have missing : stoppable 5 (.dispatch (.store (.findByEventId "e1"))) s (.ok none) s := .refl
  have takes : stoppable 5 (.dispatch (.store (.insert Dispatch.greetingAccepted))) s (.ok row) s :=
    .refl
  have acks : ∀ r, stoppable 5 (.ack r) s (.ok ()) s := fun _ => .refl
  have publish : ∀ letter, stoppable 5 (.dispatch (.publish record letter)) s
      (.error (.letterUnpublished "broker down")) s' := fun _ => passes
  have waits : ∀ delay, stoppable 5 (.rest delay) s' .interrupted s' := fun _ =>
    Watch.interrupts_of_on rfl
  have stops : stoppable 5 .isStopping s' true s' := ⟨.refl, rfl⟩
  have stored := Dispatch.exists_passage_storing (W := fun q => stoppable 5 (.dispatch q)) .default
    (Dispatch.read_greeting 6) Dispatch.accept_greeting rfl now missing takes
  have others : ∃ events, Passage (stoppable 5)
      (turns .default 2 ((fresh 0).count (.acked ⟨row, false⟩))) s events (some ⟨1, 0, 1⟩) s' :=
    ⟨_, .ask going <| .ask (receives record) <| .tell <| .tell <| .tell <| .ask now <|
      .ask (publish _) <| .tell <| .tell <| .tell <| .tell <| .tell <| .ask (waits _) <| .tell <|
      .ask stops <| .tell .done⟩
  obtain ⟨events, turns⟩ := exists_passage_turns
    (exists_passage_acknowledging (fresh 0) going (receives _) stored rfl (acks _)) others
  have ran : ∃ events, Passage (stoppable 5) (run .default 0 3) s events (some ⟨1, 0, 1⟩) s' :=
    ⟨_, .tell (.tell turns)⟩
  obtain ⟨events, passage⟩ := ran
  obtain ⟨-, ⟨ts, deeded, graceful, counted⟩, -, -⟩ := stops_gracefully .default 0 3 fits passage
  have summary := counted _ rfl
  exact ⟨_, s', ts, passage, deeded, graceful, (congrArg WorkerSummary.acked summary).symm,
    (congrArg WorkerSummary.retried summary).symm⟩

end MessageIntake.Worker
