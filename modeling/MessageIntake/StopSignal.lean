import MessageIntake.Poll
/-!
# The stop signal

A worker is told to stop by a signal that somebody else holds: it is set on or off, and its
holder may go away. The worker notices each setting once, and takes a signal that nobody can
set any more for one that is on.

Main statement: the wait for the signal is over if the signal ends a wait, and pending if it does
not, whether it is polled anew or where it stands (`endsWait_of_awaited`, `awaited_pending`).
-/

namespace MessageIntake

/-- **A stop signal** as one worker sees it. -/
structure StopSignal where
  on : Bool
  /-- It was set and the worker has not noticed that yet. -/
  fresh : Bool
  /-- Nobody can set it any more. -/
  abandoned : Bool
  deriving DecidableEq, Repr

/-- What happens to a stop signal. -/
inductive StopEvent where
  | set (on : Bool)
  | abandon
  deriving DecidableEq, Repr

/-- **News** of a stop signal. -/
inductive StopNews where
  /-- It was set. -/
  | set
  /-- Nobody can set it any more. -/
  | abandoned
  deriving DecidableEq, Repr

namespace StopSignal

/-- The signal before anything happened to it. -/
def initial (on : Bool) : StopSignal := ⟨on, false, false⟩

/-- The signal after an event; once abandoned it stays as it is. -/
def after (s : StopSignal) : StopEvent → StopSignal
  | .set on => if s.abandoned then s else { s with on, fresh := true }
  | .abandon => { s with abandoned := true }

/-- The signal after the worker has noticed its setting. -/
def noticed (s : StopSignal) : StopSignal := { s with fresh := false }

/-- There is nothing to notice twice. -/
theorem noticed_of_seen {s : StopSignal} (seen : s.fresh = false) : s.noticed = s := by
  cases s
  cases seen
  rfl

/-- **The signal ends a wait.** -/
def endsWait (s : StopSignal) : Bool := s.on || s.abandoned

/-- A signal that nobody can set any more ends every wait. -/
@[simp] theorem endsWait_after_abandon (s : StopSignal) :
    (s.after .abandon).endsWait = true := by
  simp [after, endsWait]

/-! ### Polling the signal -/

/-- **What is new**: a setting is noticed, and only then that nobody can set the signal any
more. -/
def changed : Poll StopSignal StopNews := fun s =>
  if s.fresh then (some .set, s.noticed)
  else (if s.abandoned then some .abandoned else none, s)

theorem changed_of_fresh {s : StopSignal} (fresh : s.fresh = true) :
    s.changed = (some .set, s.noticed) := if_pos fresh

theorem changed_of_seen {s : StopSignal} (seen : s.fresh = false) :
    s.changed = (if s.abandoned then some .abandoned else none, s) := by
  rw [changed, seen, if_neg Bool.false_ne_true]

/-- A setting is news only until it is noticed. -/
theorem changed_eq_set {s s' : StopSignal} (h : s.changed = (some .set, s')) :
    s.fresh = true ∧ s' = s.noticed := by
  cases fresh : s.fresh with
  | true =>
    rw [changed_of_fresh fresh] at h
    exact ⟨rfl, (congrArg Prod.snd h).symm⟩
  | false =>
    rw [changed_of_seen fresh] at h
    split at h <;> cases h

/-- **The wait for the signal**, polled where it stands: it looks whether the signal is on, and
else waits for news, with each setting of which it looks again. -/
def awaited (looks : Bool) (s : StopSignal) : Option Unit × StopSignal :=
  if looks then
    if s.on then (some (), s) else awaited false s
  else
    match _h : s.changed with
    | (none, s') => (none, s')
    | (some .abandoned, s') => (some (), s')
    | (some .set, s') => awaited true s'
termination_by (s.fresh.toNat, looks.toNat)
decreasing_by
  · next looks _ =>
    rw [looks]
    exact .right _ Nat.one_pos
  · obtain ⟨fresh, rfl⟩ := changed_eq_set ‹_›
    rw [fresh]
    exact .left _ _ Nat.one_pos

/-- With nothing to notice, the wait that stands at the news is over if there will be none. -/
theorem awaited_of_seen {s : StopSignal} (seen : s.fresh = false) :
    s.awaited false = (if s.abandoned then some () else none, s) := by
  have news := changed_of_seen seen
  rw [awaited, if_neg Bool.false_ne_true]
  cases gone : s.abandoned <;> rw [gone] at news <;> split <;> simp_all

/-- With a setting to notice, it looks at the signal again. -/
theorem awaited_of_fresh {s : StopSignal} (fresh : s.fresh = true) :
    s.awaited false = s.noticed.awaited true := by
  have news := changed_of_fresh fresh
  rw [awaited, if_neg Bool.false_ne_true]
  split <;> simp_all

/-- **The steps of the wait** one after the other, in whatever place it stands. -/
theorem awaited_eq (looks : Bool) (s : StopSignal) : s.awaited looks =
    if looks && s.on then (some (), s)
    else if s.fresh then (if s.endsWait then some () else none, s.noticed)
    else (if s.abandoned then some () else none, s) := by
  have anew : ∀ s : StopSignal, s.awaited true =
      if s.on then (some (), s) else s.awaited false := fun s => by rw [awaited, if_pos rfl]
  have news : s.awaited false =
      if s.fresh then (if s.endsWait then some () else none, s.noticed)
      else (if s.abandoned then some () else none, s) := by
    cases fresh : s.fresh with
    | false => rw [awaited_of_seen fresh, if_neg Bool.false_ne_true]
    | true =>
      have again : s.noticed.awaited false = (if s.abandoned then some () else none, s.noticed) :=
        awaited_of_seen rfl
      rw [awaited_of_fresh fresh, anew, again, if_pos rfl]
      cases on : s.on <;> simp [endsWait, noticed, on]
  cases looks with
  | false => rw [news, Bool.false_and, if_neg Bool.false_ne_true]
  | true => rw [anew, news, Bool.true_and]

variable {s s' : StopSignal} {looks : Bool}

/-- The wait only notices settings. -/
theorem awaited_notices {value : Option Unit} (h : s.awaited looks = (value, s')) :
    s' = s ∨ s' = s.noticed := by
  rw [awaited_eq] at h
  split at h
  · exact .inl (congrArg Prod.snd h).symm
  · split at h
    · exact .inr (congrArg Prod.snd h).symm
    · exact .inl (congrArg Prod.snd h).symm

/-- As long as the signal does not end it, the wait is pending. -/
theorem awaited_of_going (looks : Bool) (going : s.endsWait = false) :
    s.awaited looks = (none, s.noticed) := by
  obtain ⟨off, held⟩ := Bool.or_eq_false_iff.1 going
  rw [awaited_eq, off, Bool.and_false, if_neg Bool.false_ne_true, going, held]
  split
  · rfl
  · next seen => rw [noticed_of_seen (Bool.not_eq_true _ |>.mp seen)]; rfl

/-- **The wait is over** only if the signal ends a wait. -/
theorem endsWait_of_awaited (h : s.awaited looks = (some (), s')) : s.endsWait = true := by
  rw [awaited_eq] at h
  split at h
  · next on =>
    rw [Bool.and_eq_true] at on
    rw [endsWait, on.2, Bool.true_or]
  · split at h
    · split at h
      · next ends => exact ends
      · cases h
    · split at h
      · next gone => rw [endsWait, gone, Bool.or_true]
      · cases h

/-- **The wait is pending** only if the signal does not end it, provided that it looks whether the
signal is on, or has not noticed yet that it is; and then all is noticed. -/
theorem awaited_pending (looked : looks = true ∨ (s.on = true → s.fresh = true))
    (h : s.awaited looks = (none, s')) : s.endsWait = false ∧ s' = s.noticed := by
  rw [awaited_eq] at h
  split at h
  · cases h
  · next off =>
    split at h
    · split at h
      · cases h
      · next going => exact ⟨Bool.eq_false_iff.2 going, (congrArg Prod.snd h).symm⟩
    · next seen =>
      split at h
      · cases h
      · next held =>
        rw [Bool.not_eq_true] at off seen held
        have silent : s.on = false := by
          rcases looked with rfl | fresh
          · exact off
          · exact Bool.eq_false_iff.2 fun on => Bool.false_ne_true (seen.symm.trans (fresh on))
        refine ⟨by rw [endsWait, silent, held]; rfl, ?_⟩
        rw [noticed_of_seen seen]
        exact (congrArg Prod.snd h).symm

/-- The wait from a place where it stands on, with the events that are left. -/
def awaitFrom (looks : Bool) (limit : Nat) (s : StopSignal) (now : Nat) :
    List (Nat × StopEvent) → Bool × Nat
  | [] => ((s.awaited looks).1.isSome, if (s.awaited looks).1.isSome then now else limit)
  | (time, event) :: rest =>
    match s.awaited looks with
    | (some (), _) => (true, now)
    | (none, s) =>
      if limit < Nat.max now time then (false, limit)
      else awaitFrom false limit (s.after event) (Nat.max now time) rest

/-- **Waiting for the signal** for at most `limit` milliseconds, with its events at their
times: whether it came, and when the waiting was over. An event is not before the one that
it follows in the list. -/
def awaitWithin (limit : Nat) (s : StopSignal) (now : Nat) (events : List (Nat × StopEvent)) :
    Bool × Nat :=
  s.awaitFrom true limit now events

end StopSignal

end MessageIntake
