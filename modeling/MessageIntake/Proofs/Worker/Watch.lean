import Mathlib.Logic.Relation
import MessageIntake.Proofs.Passage
import MessageIntake.Worker
/-!
# Surroundings in which the stop comes

Surroundings of a worker of which only the clock and the stop signal are known: time passes while
anything is asked, and the stop comes at some moment, for good. The signal is set on then, or its
holder goes away; before that it may be set off as often as one likes. Records, faults and answers
are as they like to be.

A worker that waits, for a record or until a span has passed, awaits a race. The race is polled
after whatever happens in a moment, and time does not pass over a moment in which it would end. That
is all that is asked of the clock: a wait is over as soon as its time has passed or the stop has
come, and when both happen in one moment, either may end it (`ends_either_way`).

Main statements: what is received is news of the signal, if there is any (`received_of_stoppable`);
a wait elapses no later than the stop, and is interrupted no later than it is due
(`Awaits.elapses`, `Awaits.interrupts`).
-/

namespace MessageIntake

/-- Nothing happens any more to a signal whose holder is gone. -/
theorem StopSignal.after_of_abandoned {s : StopSignal} (gone : s.abandoned = true)
    (event : StopEvent) : s.after event = s := by
  cases event with
  | set on => exact if_pos gone
  | abandon =>
    cases s
    cases gone
    rfl

namespace Worker

open Relation (ReflTransGen)

/-! ### The clock and the stop signal -/

/-- **What is known of a worker's surroundings**: the time, in nanoseconds, and the stop signal as
the worker sees it. -/
structure Watch where
  now : Nat
  signal : StopSignal

namespace Watch

/-- The stop has come. -/
def stopped (s : Watch) : Bool := s.signal.endsWait

/-- The worker has noticed the signal's last setting. -/
def noticed (s : Watch) : Watch := { s with signal := s.signal.noticed }

/-- **The stop comes at a moment**: not before it, and not after. -/
def Fits (stop : Nat) (s : Watch) : Prop := if s.stopped then stop ≤ s.now else s.now ≤ stop

theorem fits_of_stopped {stop : Nat} {s : Watch} (stops : s.stopped = true) :
    Fits stop s ↔ stop ≤ s.now := by rw [Fits, if_pos stops]

theorem fits_of_going {stop : Nat} {s : Watch} (going : s.stopped = false) :
    Fits stop s ↔ s.now ≤ stop := by rw [Fits, going, if_neg Bool.false_ne_true]

/-- **What may happen next**: time passes, or something happens to the signal. A stop that has come
does not go away. -/
inductive Step (stop : Nat) : Watch → Watch → Prop where
  | tick {now later : Nat} {signal : StopSignal} (le : now ≤ later)
      (fits : Fits stop ⟨later, signal⟩) : Step stop ⟨now, signal⟩ ⟨later, signal⟩
  | event {now : Nat} {signal : StopSignal} (event : StopEvent)
      (lasts : signal.endsWait = true → (signal.after event).endsWait = true)
      (fits : Fits stop ⟨now, signal.after event⟩) :
      Step stop ⟨now, signal⟩ ⟨now, signal.after event⟩

/-- **Any time passes.** -/
def Passes (stop : Nat) : Watch → Watch → Prop := ReflTransGen (Step stop)

/-- **What happens in one moment.** -/
def Moment (stop : Nat) : Watch → Watch → Prop :=
  ReflTransGen fun s s' => Step stop s s' ∧ s'.now = s.now

variable {α : Type} {stop due : Nat} {s s' t mid : Watch}

theorem Step.fits (h : Step stop s s') : Fits stop s' := by
  cases h with
  | tick _ fits => exact fits
  | event _ _ fits => exact fits

theorem Passes.fits (h : Passes stop s s') (fits : Fits stop s) : Fits stop s' := by
  cases h.cases_tail with
  | inl same => exact same ▸ fits
  | inr step =>
    obtain ⟨_, -, step⟩ := step
    exact step.fits

/-- A moment is some time, and has none. -/
theorem Moment.passes (h : Moment stop s t) : Passes stop s t ∧ t.now = s.now := by
  induction h with
  | refl => exact ⟨.refl, rfl⟩
  | tail _ step ih => exact ⟨ih.1.tail step.1, step.2.trans ih.2⟩

/-- To notice a setting takes no time, and does not undo the stop. -/
theorem fits_noticed (fits : Fits stop s) : Fits stop s.noticed := fits

/-- A signal that is on stays on. -/
theorem Step.on (h : Step stop s s') (on : s.signal.on = true) : s'.signal.on = true := by
  cases h with
  | tick => exact on
  | @event now signal event lasts =>
    -- a holder who is still there would undo the stop by setting the signal off
    have ends := lasts (by simp [StopSignal.endsWait, show signal.on = true from on])
    cases event with
    | abandon => exact on
    | set setting =>
      simp only [StopSignal.after] at ends ⊢
      split
      · exact on
      · next held =>
        simpa [StopSignal.endsWait, held] using ends

theorem Passes.on (h : Passes stop s s') (on : s.signal.on = true) : s'.signal.on = true := by
  induction h with
  | refl => exact on
  | tail _ step ih => exact step.on ih

/-- **What has not been noticed is that the signal was set**: if there is nothing to be noticed, it
is as it was. -/
theorem Step.on_of_not_fresh (h : Step stop s s') (seen : s'.signal.fresh = false) :
    s.signal.fresh = false ∧ s'.signal.on = s.signal.on := by
  cases h with
  | tick => exact ⟨seen, rfl⟩
  | @event now signal event =>
    cases event with
    | abandon => exact ⟨seen, rfl⟩
    | set setting =>
      simp only [StopSignal.after] at seen ⊢
      split at seen
      · next gone =>
        rw [if_pos gone]
        exact ⟨seen, rfl⟩
      · cases seen

theorem Passes.on_of_not_fresh (h : Passes stop s s') (seen : s'.signal.fresh = false) :
    s.signal.fresh = false ∧ s'.signal.on = s.signal.on := by
  induction h with
  | refl => exact ⟨seen, rfl⟩
  | tail _ step ih =>
    obtain ⟨before, same⟩ := step.on_of_not_fresh seen
    exact ⟨(ih before).1, same.trans (ih before).2⟩

/-- **When the holder is gone**, only time passes. -/
theorem Passes.signal_of_abandoned (h : Passes stop s s') (gone : s.signal.abandoned = true) :
    s'.signal = s.signal := by
  induction h with
  | refl => rfl
  | tail _ step ih =>
    cases step with
    | tick => exact ih
    | event event =>
      have held : StopSignal.abandoned _ = true := ih ▸ gone
      exact (StopSignal.after_of_abandoned held event).trans ih

/-! ### Races that are awaited -/

/-- A poll of the signal. -/
def ofSignal (poll : Poll StopSignal α) : Poll Watch α :=
  poll.within Watch.signal fun signal s => { s with signal }

/-- The alarm of a wait. -/
def alarm (due : Nat) : Poll Watch Unit := fun s => (if due ≤ s.now then some () else none, s)

/-- The polls of the race for a record, over a source that has or has not whatever it likes. -/
def Receiving (_first : Bool) (poll : Poll Watch Arrival) : Prop :=
  ∃ found, poll = receiving (ofSignal StopSignal.changed) fun s => (found, s)

/-- The polls of the race of a wait, which begins by looking at the signal. -/
def Resting (due : Nat) (first : Bool) (poll : Poll Watch Rest) : Prop :=
  ∃ alarmFirst, poll = resting alarmFirst (alarm due) (ofSignal (StopSignal.awaited first))

/-- **A race is awaited.** It is polled after what happens in a moment. If it is pending, time goes
on, but not over a moment in which it would end, and it is polled again. -/
inductive Awaits (stop : Nat) (polls : Bool → Poll Watch α → Prop) :
    Bool → Watch → α → Watch → Prop where
  | ready {first : Bool} {poll : Poll Watch α} {s t s' : Watch} {a : α} (moment : Moment stop s t)
      (chosen : polls first poll) (ready : poll t = (some a, s')) :
      Awaits stop polls first s a s'
  | pending {first : Bool} {poll : Poll Watch α} {s t mid s' : Watch} {later : Nat} {a : α}
      (moment : Moment stop s t) (chosen : polls first poll) (pending : poll t = (none, mid))
      (le : mid.now ≤ later) (fits : Fits stop ⟨later, mid.signal⟩)
      (idle : ∀ time, mid.now ≤ time → time < later →
        ∃ poll, polls false poll ∧ (poll ⟨time, mid.signal⟩).1 = none)
      (rest : Awaits stop polls false ⟨later, mid.signal⟩ a s') : Awaits stop polls first s a s'

theorem ofSignal_eq_iff {poll : Poll StopSignal α} {value : Option α} :
    ofSignal poll t = (value, mid) ↔
      ∃ signal, poll t.signal = (value, signal) ∧ { t with signal } = mid :=
  Poll.within_eq_iff

theorem alarm_eq_some_iff {value : Unit} :
    alarm due t = (some value, mid) ↔ due ≤ t.now ∧ mid = t := by
  simp [alarm, Prod.ext_iff, eq_comm]

theorem alarm_eq_none_iff : alarm due t = (none, mid) ↔ t.now < due ∧ mid = t := by
  simp [alarm, Prod.ext_iff, eq_comm]

/-- **What the race for a record comes to**: news if there are any, and else what the source has. -/
theorem receiving_eq (found : Option (Option (Except Transport.Fault Record))) (t : Watch) :
    receiving (ofSignal StopSignal.changed) (fun s => (found, s)) t =
      if t.signal.fresh then (some .signalled, t.noticed)
      else if t.signal.abandoned then (some .abandoned, t)
      else (found.map Arrival.ofSource, t) := by
  cases fresh : t.signal.fresh with
  | true =>
    simp [receiving, Poll.race, Poll.map, ofSignal, Poll.within,
      StopSignal.changed_of_fresh fresh, noticed, Arrival.ofNews]
  | false =>
    cases gone : t.signal.abandoned <;>
      simp [receiving, Poll.race, Poll.map, ofSignal, Poll.within,
        StopSignal.changed_of_seen fresh, gone, Arrival.ofNews]

/-- **What a poll of a wait comes to**: it is due, or the stop has come, or neither. -/
inductive Rested (due : Nat) (first : Bool) (t : Watch) : Option Rest → Watch → Prop where
  | elapsed {mid : Watch} (le : due ≤ t.now) (notices : mid = t ∨ mid = t.noticed) :
      Rested due first t (some .elapsed) mid
  | interrupted {mid : Watch} (ends : t.stopped = true) (notices : mid = t ∨ mid = t.noticed) :
      Rested due first t (some .interrupted) mid
  | pending {signal : StopSignal} (early : t.now < due)
      (waits : t.signal.awaited first = (none, signal)) : Rested due first t none ⟨t.now, signal⟩

variable {first : Bool} {value : Option Rest} {rest : Rest}

/-- To poll the signal is at most to notice a setting. -/
theorem notices_of_awaited (polled : (ofSignal (StopSignal.awaited first)).map
    (fun _ => Rest.interrupted) t = (value, mid)) : mid = t ∨ mid = t.noticed := by
  have left : mid = { t with signal := (t.signal.awaited first).2 } :=
    (congrArg Prod.snd polled).symm
  rw [left]
  have polled : t.signal.awaited first = (_, (t.signal.awaited first).2) := rfl
  exact (StopSignal.awaited_notices polled).imp
    (congrArg (Watch.mk t.now)) (congrArg (Watch.mk t.now))

theorem rested_of_awaited (polled : (ofSignal (StopSignal.awaited first)).map
    (fun _ => Rest.interrupted) t = (some rest, mid)) : Rested due first t (some rest) mid := by
  have notices := notices_of_awaited polled
  obtain ⟨_, ends, rfl⟩ := Poll.map_eq_some_iff.1 polled
  obtain ⟨signal, awaited, -⟩ := ofSignal_eq_iff.1 ends
  exact .interrupted (StopSignal.endsWait_of_awaited awaited) notices

theorem rested_of_alarm {u : Watch} (notices : u = t ∨ u = t.noticed)
    (polled : (alarm due).map (fun _ => Rest.elapsed) u = (some rest, mid)) :
    Rested due first t (some rest) mid := by
  obtain ⟨_, rings, rfl⟩ := Poll.map_eq_some_iff.1 polled
  obtain ⟨le, rfl⟩ := alarm_eq_some_iff.1 rings
  refine .elapsed ?_ notices
  rcases notices with rfl | rfl
  · exact le
  · exact le

/-- **The race of a wait comes to no more**, whichever of the two is polled first. -/
theorem rested_of_resting {poll : Poll Watch Rest} (h : Resting due first poll)
    (polled : poll t = (value, mid)) : Rested due first t value mid := by
  obtain ⟨alarmFirst, rfl⟩ := h
  cases value with
  | some rest =>
    cases alarmFirst with
    | true =>
      rcases Poll.race_eq_some_iff.1 polled with rings | ⟨u, silent, ends⟩
      · exact rested_of_alarm (.inl rfl) rings
      · obtain ⟨-, rfl⟩ := alarm_eq_none_iff.1 (Poll.map_eq_none_iff.1 silent)
        exact rested_of_awaited ends
    | false =>
      rcases Poll.race_eq_some_iff.1 polled with ends | ⟨u, waits, rings⟩
      · exact rested_of_awaited ends
      · exact rested_of_alarm (notices_of_awaited waits) rings
  | none =>
    cases alarmFirst with
    | true =>
      obtain ⟨u, silent, waits⟩ := Poll.race_eq_none_iff.1 polled
      obtain ⟨early, rfl⟩ := alarm_eq_none_iff.1 (Poll.map_eq_none_iff.1 silent)
      obtain ⟨signal, pending, rfl⟩ := ofSignal_eq_iff.1 (Poll.map_eq_none_iff.1 waits)
      exact .pending early pending
    | false =>
      obtain ⟨u, waits, silent⟩ := Poll.race_eq_none_iff.1 polled
      obtain ⟨early, rfl⟩ := alarm_eq_none_iff.1 (Poll.map_eq_none_iff.1 silent)
      obtain ⟨signal, pending, rfl⟩ := ofSignal_eq_iff.1 (Poll.map_eq_none_iff.1 waits)
      exact .pending early pending

/-! ### Waiting for a span to pass -/

/-- A wait is pending only before it is due. -/
theorem Rested.early (h : Rested due first t none mid) : t.now < due ∧ mid.now = t.now := by
  cases h with
  | pending early => exact ⟨early, rfl⟩

/-- **A wait that elapses** was due before it began, or is due no later than the stop comes. -/
theorem Awaits.elapses (h : Awaits stop (Resting due) first s rest s') (elapsed : rest = .elapsed)
    (alert : first = true ∨ (s.signal.on = true → s.signal.fresh = true)) (fits : Fits stop s) :
    due ≤ s.now ∨ due ≤ stop := by
  induction h with
  | ready moment chosen ready =>
    subst elapsed
    cases rested_of_resting chosen ready with
    | elapsed le => exact .inl (moment.passes.2 ▸ le)
  | @pending first poll s t mid s' later a moment chosen pending le fits' idle rest ih =>
    have looked : first = true ∨ (t.signal.on = true → t.signal.fresh = true) := by
      refine alert.imp_right fun unseen on => (Bool.not_eq_false _).mp fun seen => ?_
      obtain ⟨before, same⟩ := moment.passes.1.on_of_not_fresh seen
      rw [unseen (same ▸ on)] at before
      cases before
    cases rested_of_resting chosen pending with
    | @pending signal early waits =>
      obtain ⟨going, rfl⟩ := StopSignal.awaited_pending looked waits
      have off : t.signal.on = false := (Bool.or_eq_false_iff.1 going).1
      rcases ih elapsed (.inr fun on => absurd on (by simp [StopSignal.noticed, off])) fits' with
        late | inTime
      · -- the stop has not come when the alarm rings
        have inTime : later ≤ stop := (fits_of_going (s := ⟨later, t.signal.noticed⟩) going).1 fits'
        exact .inr (Nat.le_trans late inTime)
      · exact .inr inTime

/-- **A wait that is interrupted** is due no earlier than the stop comes. -/
theorem Awaits.interrupts (h : Awaits stop (Resting due) first s rest s')
    (interrupted : rest = .interrupted) (le : s.now ≤ due) (fits : Fits stop s) : stop ≤ due := by
  induction h with
  | ready moment chosen ready =>
    subst interrupted
    cases rested_of_resting chosen ready with
    | interrupted ends =>
      have come := (fits_of_stopped ends).1 (moment.passes.1.fits fits)
      exact Nat.le_trans come (moment.passes.2 ▸ le)
  | @pending first poll s t mid s' later a moment chosen pending _ fits' idle rest ih =>
    refine ih interrupted (Nat.not_lt.1 fun past => ?_) fits'
    have same : mid.now = s.now :=
      (rested_of_resting chosen pending).early.2.trans moment.passes.2
    -- time has not passed over the moment in which the alarm rings
    obtain ⟨poll, again, silent⟩ := idle due (same ▸ le) past
    exact Nat.lt_irrefl due (rested_of_resting again (Prod.ext silent rfl)).early.1

/-- Before it is due, and before the stop, a wait is pending. -/
theorem resting_of_going (alarmFirst : Bool) (early : t.now < due) (going : t.stopped = false) :
    resting alarmFirst (alarm due) (ofSignal (StopSignal.awaited first)) t = (none, t.noticed) := by
  have silent : ∀ u : Watch, u.now < due → alarm due u = (none, u) := fun u early =>
    alarm_eq_none_iff.2 ⟨early, rfl⟩
  have waits : ofSignal (StopSignal.awaited first) t = (none, t.noticed) :=
    ofSignal_eq_iff.2 ⟨_, StopSignal.awaited_of_going first going, rfl⟩
  cases alarmFirst with
  | true =>
    exact Poll.race_eq_none_iff.2 ⟨t, Poll.map_eq_none_iff.2 (silent t early),
      Poll.map_eq_none_iff.2 waits⟩
  | false =>
    exact Poll.race_eq_none_iff.2 ⟨t.noticed, Poll.map_eq_none_iff.2 waits,
      Poll.map_eq_none_iff.2 (silent t.noticed early)⟩

/-- **A stop in the very moment in which a wait is due** may end it, or not. -/
theorem ends_either_way (early : s.now < due) (going : s.stopped = false) (rest : Rest) :
    ∃ s', Awaits due (Resting due) true s rest s' := by
  let u : Watch := ⟨due, s.signal.noticed⟩
  let t : Watch := ⟨due, s.signal.noticed.after (.set true)⟩
  have held : s.signal.abandoned = false := (Bool.or_eq_false_iff.1 going).2
  have on : t.signal.on = true := by simp [t, StopSignal.after, StopSignal.noticed, held]
  have stops : t.stopped = true := by rw [stopped, StopSignal.endsWait, on, Bool.true_or]
  have moment : Moment due u t :=
    .single ⟨.event (.set true) (fun _ => stops) ((fits_of_stopped stops).2 (Nat.le_refl due)), rfl⟩
  have idle : ∀ time, s.noticed.now ≤ time → time < due →
      ∃ poll, Resting due false poll ∧ (poll ⟨time, s.noticed.signal⟩).1 = none :=
    fun time _ early => ⟨_, ⟨true, rfl⟩, congrArg Prod.fst
      (resting_of_going (t := ⟨time, s.noticed.signal⟩) true early going)⟩
  have awaits : ∀ s', Awaits due (Resting due) false u rest s' →
      Awaits due (Resting due) true s rest s' := fun s' later =>
    .pending .refl ⟨true, rfl⟩ (resting_of_going true early going) (Nat.le_of_lt early)
      ((fits_of_going (s := u) going).2 (Nat.le_refl due)) idle later
  cases rest with
  | elapsed =>
    have rings : alarm due t = (some (), t) := alarm_eq_some_iff.2 ⟨Nat.le_refl due, rfl⟩
    exact ⟨t, awaits t (.ready moment ⟨true, rfl⟩
      (Poll.race_eq_some_iff.2 (.inl (Poll.map_eq_some_iff.2 ⟨(), rings, rfl⟩))))⟩
  | interrupted =>
    have fresh : t.signal.fresh = true := by simp [t, StopSignal.after, StopSignal.noticed, held]
    have ends : ofSignal (StopSignal.awaited false) t = (some (), t.noticed) := by
      refine ofSignal_eq_iff.2 ⟨t.signal.noticed, ?_, rfl⟩
      rw [StopSignal.awaited_eq, Bool.false_and, if_neg Bool.false_ne_true, if_pos fresh]
      exact if_pos stops ▸ rfl
    exact ⟨t.noticed, awaits t.noticed (.ready moment ⟨false, rfl⟩
      (Poll.race_eq_some_iff.2 (.inl (Poll.map_eq_some_iff.2 ⟨(), ends, rfl⟩))))⟩

/-- A wait that begins with the signal on may be interrupted at once. -/
theorem interrupts_of_on (on : s.signal.on = true) :
    Awaits stop (Resting due) true s .interrupted s := by
  have ends : s.signal.awaited true = (some (), s.signal) := by
    rw [StopSignal.awaited_eq, on]
    rfl
  exact .ready .refl ⟨false, rfl⟩ (Poll.race_eq_some_iff.2 (.inl (Poll.map_eq_some_iff.2
    ⟨(), ofSignal_eq_iff.2 ⟨_, ends, rfl⟩, rfl⟩)))

/-- The stop comes at its moment, also for one that waits. -/
theorem Awaits.fits_of_resting (h : Awaits stop (Resting due) first s rest s')
    (fits : Fits stop s) : Fits stop s' := by
  induction h with
  | ready moment chosen ready =>
    have fits' := moment.passes.1.fits fits
    cases rested_of_resting chosen ready with
    | elapsed _ notices | interrupted _ notices =>
      rcases notices with rfl | rfl
      · exact fits'
      · exact fits_noticed fits'
  | pending _ _ _ _ fits' _ _ ih => exact ih fits'

/-! ### Waiting for a record -/

/-- **What is received** comes after some time: news of the signal if there are any, and anything
else only if there are none. -/
def Received (stop : Nat) (s : Watch) : Arrival → Watch → Prop
  | .signalled, s' => ∃ mid, Passes stop s mid ∧ mid.signal.fresh = true ∧ s' = mid.noticed
  | .abandoned, s' =>
    Passes stop s s' ∧ s'.signal.fresh = false ∧ s'.signal.abandoned = true
  | .record _, s' | .fault _, s' | .closed, s' =>
    Passes stop s s' ∧ s'.signal.fresh = false ∧ s'.signal.abandoned = false

/-- What the source has may be received at once, if there are no news. -/
theorem receives_of_seen (seen : s.signal.fresh = false) (held : s.signal.abandoned = false)
    (found : Option (Except Transport.Fault Record)) :
    Awaits stop Receiving true s (.ofSource found) s := by
  refine .ready .refl ⟨some found, rfl⟩ ?_
  rw [receiving_eq, seen, if_neg Bool.false_ne_true, held, if_neg Bool.false_ne_true]
  rfl

theorem Received.after {arrival : Arrival} (passes : Passes stop s t)
    (h : Received stop t arrival s') : Received stop s arrival s' := by
  cases arrival with
  | signalled =>
    obtain ⟨mid, later, rest⟩ := h
    exact ⟨mid, passes.trans later, rest⟩
  | abandoned | record | fault | closed => exact h.imp_left passes.trans

/-- **A record that is awaited** is received. -/
theorem Awaits.received {arrival : Arrival} (h : Awaits stop Receiving first s arrival s') :
    Received stop s arrival s' := by
  induction h with
  | @ready first poll s t s' arrival moment chosen ready =>
    refine Received.after moment.passes.1 ?_
    obtain ⟨found, rfl⟩ := chosen
    rw [receiving_eq] at ready
    split at ready
    · next fresh =>
      cases ready
      exact ⟨t, .refl, fresh, rfl⟩
    next seen =>
    rw [Bool.not_eq_true] at seen
    split at ready
    · next gone =>
      cases ready
      exact ⟨.refl, seen, gone⟩
    next held =>
    rw [Bool.not_eq_true] at held
    obtain ⟨source, -, rfl⟩ := Option.map_eq_some_iff.1 (congrArg Prod.fst ready)
    obtain rfl : t = s' := congrArg Prod.snd ready
    match source with
    | none | some (.ok _) | some (.error _) => exact ⟨.refl, seen, held⟩
  | @pending first poll s t mid s' later arrival moment chosen pending le fits _ _ ih =>
    obtain ⟨found, rfl⟩ := chosen
    have same : t = mid := by
      rw [receiving_eq] at pending
      split at pending
      · cases pending
      · split at pending
        · cases pending
        · exact congrArg Prod.snd pending
    subst same
    exact ih.after (moment.passes.1.tail (.tick le fits))

end Watch

/-! ### Surroundings that can be stopped -/

open Watch (Fits Passes Awaits Receiving Resting Received)

/-- **A worker that can be stopped.** Time passes with each question. For a record, and until a wait
is over, a race is awaited. -/
def stoppable (stop : Nat) : World api Watch
  | .isStopping, s, a, s' => Passes stop s s' ∧ a = s'.signal.on
  | .receive, s, a, s' => Awaits stop Receiving true s a s'
  | .rest delay, s, a, s' => Awaits stop (Resting (s.now + delay.nanos)) true s a s'
  | .dispatch _, s, _, s' => Passes stop s s'
  | .ack _, s, _, s' => Passes stop s s'
  | .nack _, s, _, s' => Passes stop s s'

variable {stop : Nat} {s s' mid : Watch}

theorem received_of_stoppable {arrival : Arrival} (h : stoppable stop .receive s arrival s') :
    Received stop s arrival s' := Awaits.received h

/-- The stop comes at its moment, whatever is asked. -/
theorem fits_of_stoppable {q : Question} {a : api.Answer q} (h : stoppable stop q s a s')
    (fits : Fits stop s) : Fits stop s' := by
  cases q with
  | isStopping => exact h.1.fits fits
  | receive =>
    cases a with
    | signalled =>
      obtain ⟨mid, passes, -, rfl⟩ := received_of_stoppable h
      exact Watch.fits_noticed (passes.fits fits)
    | abandoned | record | fault | closed => exact (received_of_stoppable h).1.fits fits
  | rest delay => exact Awaits.fits_of_resting h fits
  | dispatch | ack | nack => exact Passes.fits h fits

/-- **A record is received before the stop.** -/
theorem received_in_time {record : Record} (going : stoppable stop .isStopping s false mid)
    (receives : stoppable stop .receive mid (.record record) s') : s'.stopped = false := by
  obtain ⟨-, off⟩ := going
  obtain ⟨passes, seen, held⟩ := received_of_stoppable receives
  rw [Watch.stopped, StopSignal.endsWait, held, (passes.on_of_not_fresh seen).2, ← off]
  rfl

end Worker

end MessageIntake
