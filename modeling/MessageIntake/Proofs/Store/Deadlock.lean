import Mathlib.Logic.Relation
import MessageIntake.Proofs.Store.Locking
/-!
# No deadlock

Inserts take their locks in one order: the counter of the conversation, then the `eventId`, then
the `clientMsgId`. Whoever waits for a lock holds none that comes after it, so that along a chain
of transactions that wait for each other the locks only go up, and the last one goes on.

Main statement: inserts at the same time never wait for each other in a circle, and as long as a
transaction is unfinished, some transaction can go on (`inserts_never_deadlock`).
-/

namespace MessageIntake.Store.Sql

open Datastore (Fault)
open Dialogue (wp_bind)
open Function (update_self)

/-! ### The order in which a part takes its locks -/

/-- **A lock comes after those that are held**, or is one of them. -/
def After (held : List Lock) (lock : Lock) : Prop :=
  ∀ other ∈ held, other.rank < lock.rank ∨ other = lock

/-- **The reading of a part by its locks.** Its state is the locks that the transaction may hold, or
nothing if there is no transaction. -/
def ordering : Dialogue.Spec Request.api Telemetry (Option (List Lock)) where
  ask r wish c :=
    match r, wish with
    | .need need, wish =>
      ∃ held, c = some held ∧ After held need.lock ∧ ∀ a, wish a (some (need.lock :: held))
    | .run .begin, wish => c = none ∧ ∀ a, wish a (some [])
    | .run .commit, wish => wish (.ok ()) none ∧ ∀ fault, wish (.error fault) c
    | .run .rollback, wish => wish () none
    | .run (.findByEventId _), wish | .run (.findByClientMsgId _), wish
    | .run (.readCounter _), wish | .run (.addCounter _), wish | .run (.lockCounter _), wish
    | .run (.setCounter ..), wish | .run (.insertMessage ..), wish => ∀ a, wish a c
  tell _ wish c := wish c
  ask_mono {r _ _} h c hc := by
    cases r with
    | need need =>
      obtain ⟨held, rfl, after, ha⟩ := hc
      exact ⟨held, rfl, after, fun a => h _ _ (ha a)⟩
    | run q =>
      cases q with
      | begin => exact ⟨hc.1, fun a => h _ _ (hc.2 a)⟩
      | commit => exact ⟨h _ _ hc.1, fun fault => h _ _ (hc.2 fault)⟩
      | rollback => exact h _ _ hc
      | _ => exact fun a => h _ _ (hc a)
  tell_mono h c hc := h c hc

/-- **A part is in order** from a state on: in the end there is no transaction. -/
def InOrder {α : Type} (d : LockTalk α) (c : Option (List Lock)) : Prop :=
  d.wp ordering (fun _ c => c = none) c

/-- **Some needs are asked for in their turn**, from the locks that are held on. -/
def InTurn : List Lock → List Need → Prop
  | _, [] => True
  | held, need :: later => After held need.lock ∧ InTurn (need.lock :: held) later

/-- The locks that are held once some more have been given out. -/
def gathered (held : List Lock) (needs : List Need) : List Lock :=
  needs.foldl (fun held need => need.lock :: held) held

variable {α β : Type} {held : List Lock} {c : Option (List Lock)}

/-- Asking for locks in their turn; a fault may come at any of them. -/
theorem wp_acquire {needs : List Need} {post : Except Fault Unit → Option (List Lock) → Prop}
    (turn : InTurn held needs) (given : post (.ok ()) (some (gathered held needs)))
    (refused : ∀ fault held', post (.error fault) (some held')) :
    (acquire needs).wp ordering post (some held) := by
  induction needs generalizing held with
  | nil => exact given
  | cons need later ih =>
    refine ⟨held, rfl, turn.1, fun a => ?_⟩
    match a with
    | .ok () => exact ih turn.2 given
    | .error fault => exact refused fault _

/-- **A statement within a transaction** asks for its locks in their turn, and runs or is
refused. -/
theorem inOrder_ask {q : Statement} {rest : api.Answer q → Talk α}
    (within : ∀ wish c, (∀ a, wish a c) → ordering.ask (.run q) wish c)
    (turn : InTurn held q.needs)
    (goes : ∀ a, InOrder (served (rest a)) (some (gathered held q.needs)))
    (fails : ∀ fault held', InOrder (served (rest (q.refused fault))) (some held')) :
    InOrder (served (.ask q rest)) (some held) := by
  rw [InOrder, served, Dialogue.interpret, wp_bind, serve, wp_bind]
  exact wp_acquire turn (within _ _ goes) fails

/-- Whatever is held, a rollback ends the transaction. -/
theorem inOrder_abandon (fault : Fault) :
    InOrder (served (abandon fault : Talk (Except Fault α))) c := rfl

/-- Going on within a transaction, or ending it. -/
theorem inOrder_orRollback {next : α → Talk (Except Fault β)} (r : Except Fault α)
    (goes : ∀ a, InOrder (served (next a)) c) : InOrder (served (orRollback next r)) c := by
  cases r with
  | ok a => exact goes a
  | error fault => exact inOrder_abandon fault

theorem inOrder_commit (message : Message) : InOrder (served (commit message)) (some held) :=
  ⟨rfl, inOrder_abandon⟩

/-- **The keys of a message** come after the counter of its conversation. -/
theorem inOrder_insertNumbered (event : AcceptedEvent) (seqNo : Int)
    (counters : ∀ lock ∈ held, lock.rank = 0) :
    InOrder (served (insertNumbered event seqNo)) (some held) := by
  have first : After held (.eventId event.eventId) := fun lock mem =>
    .inl (by rw [counters lock mem]; exact Nat.one_pos)
  have turn : InTurn held (Statement.insertMessage event seqNo).needs := by
    cases carried : event.clientMsgId with
    | none => simpa [Statement.needs, carried, InTurn, Need.lock] using first
    | some id =>
      have second : After (.eventId event.eventId :: held) (.clientMsgId id) :=
        List.forall_mem_cons.2 ⟨.inl Nat.one_lt_two, fun lock mem =>
          .inl (by rw [counters lock mem]; exact Nat.two_pos)⟩
      simpa [Statement.needs, carried, InTurn, Need.lock] using ⟨first, second⟩
  exact inOrder_ask (fun _ _ => id) turn
    (fun answer => inOrder_orRollback (insertedMessage? answer) inOrder_commit)
    fun fault _ => inOrder_abandon fault

/-- **Giving out a number** locks no more than the counter of the conversation. -/
theorem inOrder_allocate {k : String} {next : Int → Talk (Except Fault Message)}
    (follows : ∀ n held, (∀ lock ∈ held, lock = .counter k) →
      InOrder (served (next n)) (some held)) :
    InOrder (served (allocate k next)) (some []) := by
  -- the same lock is in turn as often as it is asked for
  have turn {held : List Lock} (same : ∀ lock ∈ held, lock = .counter k) :
      After held (.counter k) := fun lock mem => .inr (same lock mem)
  have once : ∀ lock ∈ [Lock.counter k], lock = .counter k := by simp
  have twice : ∀ lock ∈ [Lock.counter k, .counter k], lock = .counter k := by simp
  have thrice : ∀ lock ∈ [Lock.counter k, .counter k, .counter k], lock = .counter k := by simp
  refine inOrder_ask (fun _ _ => id) ⟨turn nofun, trivial⟩
    (fun added => inOrder_orRollback added fun _ => ?_) fun fault _ => inOrder_abandon fault
  refine inOrder_ask (fun _ _ => id) ⟨turn once, trivial⟩
    (fun row => inOrder_orRollback (lockedValue? row) fun n => ?_) fun fault _ =>
      inOrder_abandon fault
  exact inOrder_ask (fun _ _ => id) ⟨turn twice, trivial⟩
    (fun written => inOrder_orRollback written fun _ => follows _ _ thrice) fun fault _ =>
      inOrder_abandon fault

/-- **An insert takes its locks in order**, and leaves no transaction. -/
theorem inOrder_insertSequenced (event : AcceptedEvent) :
    InOrder (served (insertSequenced event)) none := by
  refine ⟨rfl, fun begun => inOrder_orRollback begun fun _ => ?_⟩
  refine inOrder_allocate fun n held counters => inOrder_insertNumbered event n ?_
  intro lock mem
  rw [counters lock mem]
  rfl

/-! ### One transaction to a lock -/

section

variable {ι : Type} {s s' : LockServer ι} {who : ι}

/-- **No lock is held twice.** -/
def LockServer.Exclusive (s : LockServer ι) : Prop :=
  ∀ i j mine theirs lock, s.held i = some mine → s.held j = some theirs →
    lock ∈ mine → lock ∈ theirs → i = j

theorem LockServer.Loses.exclusive (loses : s.Loses s') (h : s.Exclusive) : s'.Exclusive :=
  fun i j mine theirs _ hi hj => h i j mine theirs _ (loses.held i mine hi)
    (loses.held j theirs hj)

/-- **Only one transaction changes**: it takes locks that are free. -/
structure LockServer.Takes (who : ι) (s s' : LockServer ι) : Prop where
  others : ∀ other, other ≠ who → s'.held other = s.held other
  own : ∀ locks', s'.held who = some locks' → ∀ lock ∈ locks',
    (∃ locks, s.held who = some locks ∧ lock ∈ locks) ∨ s.Free who lock

theorem LockServer.Takes.refl (who : ι) (s : LockServer ι) : s.Takes who s where
  others _ _ := rfl
  own locks holds _ mem := .inl ⟨locks, holds, mem⟩

/-- Then still no lock is held twice. -/
theorem LockServer.Takes.exclusive (takes : s.Takes who s') (h : s.Exclusive) :
    s'.Exclusive := by
  -- what the one has taken nobody else had
  have apart : ∀ j mine theirs, ∀ lock : Lock, j ≠ who → s'.held who = some mine →
      s'.held j = some theirs → lock ∈ mine → lock ∉ theirs := by
    intro j mine theirs lock ne hw hj mem mem'
    rw [takes.others j ne] at hj
    rcases takes.own mine hw lock mem with ⟨locks, holds, had⟩ | free
    · exact ne (h _ _ _ _ _ holds hj had mem').symm
    · exact ne (free j theirs hj mem')
  intro i j mine theirs lock hi hj mem mem'
  by_cases same : i = who
  · subst same
    by_contra ne
    exact apart j mine theirs lock (Ne.symm ne) hi hj mem mem'
  · by_cases other : j = who
    · subst other
      exact absurd mem (apart i theirs mine lock same hj hi mem')
    · rw [takes.others i same] at hi
      rw [takes.others j other] at hj
      exact h i j mine theirs lock hi hj mem mem'

variable [DecidableEq ι]

theorem LockServer.takes_drop (who : ι) (s : LockServer ι) : s.Takes who (s.drop who) where
  others other ne := held_drop_of_ne ne
  own locks holds := by simp at holds

theorem LockServer.takes_of_gives {need : Need} (h : s.Gives who need s') : s.Takes who s' := by
  obtain ⟨locks, holds, ⟨-, rfl⟩ | ⟨-, free, rfl⟩⟩ := h
  · exact .refl who s'
  · refine ⟨fun other ne => held_set_of_ne ne, fun locks' holds' lock mem => ?_⟩
    obtain rfl : need.lock :: locks = locks' := by simpa using holds'
    rcases List.mem_cons.1 mem with rfl | mem
    · exact .inr free
    · exact .inl ⟨locks, holds, mem⟩

/-- What is granted takes locks that are free. -/
theorem LockServer.takes_of_grants {r : Request} {a : Request.api.Answer r}
    (h : Grants who r s a s') : s.Takes who s' := by
  cases r with
  | need need => exact takes_of_gives h.2
  | run q =>
    cases q with
    | begin =>
      obtain ⟨-, rfl⟩ := h
      refine ⟨fun other ne => held_set_of_ne ne, fun locks' holds lock mem => ?_⟩
      obtain rfl : [] = locks' := by simpa using holds
      cases mem
    | commit =>
      obtain ⟨-, locks, -, rfl⟩ := h
      exact ⟨fun other ne => held_commit_of_ne ne, fun locks' holds => by simp at holds⟩
    | rollback =>
      obtain rfl : s' = s.drop who := h
      exact takes_drop who s
    | _ =>
      obtain rfl : s' = s := h
      exact .refl who s'

/-- **An answer**: some transactions are lost, and one takes locks that are free. -/
theorem LockServer.takes_of_answers {r : Request} {a : Request.api.Answer r}
    (h : Answers who r s a s') : ∃ s₀, s.Loses s₀ ∧ s₀.Takes who s' := by
  obtain ⟨s₀, loses, grants | ⟨-, ⟨-, rfl⟩ | rfl | ⟨b, grants⟩⟩⟩ := h
  · exact ⟨s₀, loses, takes_of_grants grants⟩
  · exact ⟨s', loses, .refl who s'⟩
  · exact ⟨s₀, loses, takes_drop who s₀⟩
  · exact ⟨s₀, loses, takes_of_grants grants⟩

end

/-! ### The order along a run -/

section

variable {ι : Type} {who : ι}

/-- **What a transaction holds is among what it may hold.** -/
def Covers (c held : Option (List Lock)) : Prop :=
  ∀ locks, held = some locks → ∃ may, c = some may ∧ locks ⊆ may

theorem covers_none : Covers c none := nofun

/-- Of transactions of which some are lost the others hold what they held. -/
theorem Covers.loses {s s' : LockServer ι} (h : Covers c (s.held who)) (loses : s.Loses s') :
    Covers c (s'.held who) := fun locks holds => h locks (loses.held who locks holds)

/-- One lock more may be held. -/
theorem Covers.cons {actual : Option (List Lock)} (h : Covers (some held) actual) (lock : Lock) :
    Covers (some (lock :: held)) actual := fun locks holds => by
  obtain ⟨may, eq, sub⟩ := h locks holds
  cases eq
  exact ⟨_, rfl, List.subset_cons_of_subset lock sub⟩

variable [DecidableEq ι] {s s' : LockServer ι}

theorem covers_drop : Covers c ((s.drop who).held who) := by
  rw [LockServer.held_drop_self]
  exact covers_none

/-- A lock that is given out may be held. -/
theorem Covers.gives {need : Need} (h : Covers (some held) (s.held who))
    (gives : s.Gives who need s') : Covers (some (need.lock :: held)) (s'.held who) := by
  obtain ⟨locks, holds, ⟨-, rfl⟩ | ⟨-, -, rfl⟩⟩ := gives
  · exact h.cons need.lock
  · rw [LockServer.held_set_self]
    rintro _ ⟨⟩
    obtain ⟨may, eq, sub⟩ := h locks holds
    cases eq
    exact ⟨_, rfl, List.cons_subset_cons need.lock sub⟩

/-- **An answer is in keeping with the reading of a part.** -/
theorem covers_of_answers {r : Request} {a : Request.api.Answer r}
    {wish : Request.api.Answer r → Option (List Lock) → Prop}
    (ordered : ordering.ask r wish c) (covers : Covers c (s.held who))
    (h : s.Answers who r a s') : ∃ c', wish a c' ∧ Covers c' (s'.held who) := by
  obtain ⟨s₀, loses, answered⟩ := h
  have covers := covers.loses loses
  cases r with
  | need need =>
    obtain ⟨held, rfl, -, wishes⟩ := ordered
    refine ⟨_, wishes a, ?_⟩
    rcases answered with ⟨-, gives⟩ | ⟨-, ⟨-, rfl⟩ | rfl | ⟨b, -, gives⟩⟩
    · exact covers.gives gives
    · exact covers.cons need.lock
    · exact covers_drop
    · exact covers.gives gives
  | run q =>
    cases q with
    | begin =>
      obtain ⟨rfl, wishes⟩ := ordered
      refine ⟨_, wishes a, ?_⟩
      have opened : Covers (some []) ((s₀.set who []).held who) := by
        rw [LockServer.held_set_self]
        rintro _ ⟨⟩
        exact ⟨[], rfl, List.Subset.refl []⟩
      rcases answered with ⟨-, rfl⟩ | ⟨-, ⟨-, rfl⟩ | rfl | ⟨b, -, rfl⟩⟩
      · exact opened
      · exact fun locks holds => absurd (covers locks holds) (by simp)
      · exact covers_drop
      · exact opened
    | commit =>
      rcases answered with
        ⟨rfl, locks, -, rfl⟩ | ⟨⟨fault, rfl⟩, ⟨-, rfl⟩ | rfl | ⟨b, -, locks, -, rfl⟩⟩
      · exact ⟨none, ordered.1, by simp [covers_none]⟩
      · exact ⟨c, ordered.2 fault, covers⟩
      · exact ⟨c, ordered.2 fault, covers_drop⟩
      · exact ⟨c, ordered.2 fault, by simp [covers_none]⟩
    | rollback =>
      have dropped : s' = s₀.drop who := by
        rcases answered with eq | ⟨-, ⟨other, -⟩ | eq | ⟨b, eq⟩⟩
        · exact eq
        · exact absurd rfl other
        · exact eq
        · exact eq
      exact ⟨none, ordered, dropped ▸ covers_drop⟩
    | _ =>
      refine ⟨c, ordered a, ?_⟩
      rcases answered with eq | ⟨-, ⟨-, rfl⟩ | rfl | ⟨b, eq⟩⟩
      · obtain rfl : s' = s₀ := eq
        exact covers
      · exact covers
      · exact covers_drop
      · obtain rfl : s' = s₀ := eq
        exact covers

/-- **What a transaction holds fits how far its insert has come**: it is unfinished only while the
insert goes on, and what is left of that is in order. -/
def Fits : Progress Request.api Telemetry (Except Fault Message) → Option (List Lock) → Prop
  | .talking rest, held => ∃ c, InOrder rest c ∧ Covers c held
  | .waiting, held | .finished _, held => held = none

/-- So it does if the transaction is lost. -/
theorem Fits.of_lost {progress : Progress Request.api Telemetry (Except Fault Message)}
    {actual lost : Option (List Lock)} (h : Fits progress actual)
    (less : ∀ locks, lost = some locks → actual = some locks) : Fits progress lost := by
  cases progress with
  | talking rest =>
    obtain ⟨c, ordered, covers⟩ := h
    exact ⟨c, ordered, fun locks holds => covers locks (less locks holds)⟩
  | waiting | finished =>
    obtain rfl : actual = none := h
    exact Option.eq_none_iff_forall_ne_some.2 fun locks holds => nomatch less locks holds

/-- **A moment is orderly**: no lock is held twice, and all that is held fits. -/
structure Orderly (g : Inserts ι) : Prop where
  exclusive : g.affairs.state.Exclusive
  fits : ∀ i, Fits (g.progress i) (g.affairs.state.held i)

variable {event : ι → AcceptedEvent} {counters : String → Prop} {g g' : Inserts ι}

/-- **Every step keeps the order.** -/
theorem Orderly.step (h : Orderly g) (step : (inserting event).Step who g g') : Orderly g' := by
  have fits := h.fits who
  -- others can only lose what they hold
  have of_own (others : ∀ i, i ≠ who → ∀ locks, g'.affairs.state.held i = some locks →
      g.affairs.state.held i = some locks) (exclusive : g'.affairs.state.Exclusive)
      (own : Fits (g'.progress who) (g'.affairs.state.held who)) : Orderly g' := by
    refine ⟨exclusive, fun i => ?_⟩
    by_cases same : i = who
    · rwa [same]
    · rw [step.progress_of_ne same]
      exact (h.fits i).of_lost (others i same)
  cases step with
  | begin waits =>
    dsimp only at fits
    rw [waits] at fits
    refine of_own (fun _ _ _ => id) h.exclusive ?_
    dsimp only
    rw [update_self]
    exact ⟨none, inOrder_insertSequenced (event who), fun locks holds => nomatch fits ▸ holds⟩
  | tell talks =>
    dsimp only at fits
    rw [talks] at fits
    refine of_own (fun _ _ _ => id) h.exclusive ?_
    dsimp only
    rw [update_self]
    exact fits
  | ask talks answered =>
    dsimp only at fits
    rw [talks] at fits
    obtain ⟨c, ordered, covers⟩ := fits
    obtain ⟨s₀, loses, takes⟩ := LockServer.takes_of_answers answered
    refine of_own (fun i ne locks holds => ?_) (takes.exclusive (loses.exclusive h.exclusive)) ?_
    · exact loses.held i locks ((takes.others i ne).symm.trans holds)
    · dsimp only
      rw [update_self]
      exact covers_of_answers ordered covers answered
  | finish talks =>
    dsimp only at fits
    rw [talks] at fits
    obtain ⟨c, ended, covers⟩ := fits
    refine of_own (fun _ _ _ => id) h.exclusive ?_
    dsimp only
    rw [update_self]
    refine Option.eq_none_iff_forall_ne_some.2 fun locks holds => ?_
    obtain ⟨may, eq, -⟩ := covers locks holds
    cases eq
    cases ended

/-- **Every moment is orderly.** -/
theorem orderly_of_reachable (h : (inserting event).Reachable (.idle counters) g) :
    Orderly g := by
  induction h with
  | refl => exact ⟨nofun, fun _ => rfl⟩
  | tail _ step ih =>
    obtain ⟨actor, step⟩ := step
    exact ih.step step

end

/-! ### Waiting -/

open Inserts (Unfinished Asks WaitsOver Waits)

section

variable {ι : Type} {g : Inserts ι} {i j k : ι} {lock next : Lock}

/-- Who asks for a lock holds none that comes after it. -/
theorem Orderly.after_of_asks (h : Orderly g) (asks : Asks g i lock) {locks : List Lock}
    (holds : g.affairs.state.held i = some locks) : After locks lock := by
  obtain ⟨need, rest, talks, -, rfl⟩ := asks
  have fits := h.fits i
  rw [talks] at fits
  obtain ⟨c, ⟨held, rfl, after, -⟩, covers⟩ := fits
  obtain ⟨may, eq, sub⟩ := covers locks holds
  cases eq
  exact fun other mem => after other (sub mem)

/-- **Along a chain the locks go up**: who waits over a lock waits for a transaction that can only
wait over a later one. -/
theorem Orderly.rank_lt (h : Orderly g) (waits : WaitsOver g i lock j)
    (further : WaitsOver g j next k) : lock.rank < next.rank := by
  obtain ⟨-, -, -, locks, holds, mem⟩ := waits
  obtain ⟨ne, -, asks, theirs, holds', mem'⟩ := further
  rcases h.after_of_asks asks holds lock mem with lt | rfl
  · exact lt
  · exact absurd (h.exclusive _ _ _ _ _ holds holds' mem mem') ne

/-- So they do along many transactions. -/
theorem Orderly.rank_lt_of_chain (h : Orderly g) (chain : Relation.TransGen (Waits g) i j) :
    ∃ lock, (∃ k, WaitsOver g i lock k) ∧
      ∀ next k, WaitsOver g j next k → lock.rank < next.rank := by
  induction chain with
  | single waits =>
    obtain ⟨lock, waits⟩ := waits
    exact ⟨lock, ⟨_, waits⟩, fun next k further => h.rank_lt waits further⟩
  | tail _ waits ih =>
    obtain ⟨lock, first, below⟩ := ih
    obtain ⟨mid, waits⟩ := waits
    exact ⟨lock, first, fun next k further =>
      Nat.lt_trans (below mid _ waits) (h.rank_lt waits further)⟩

/-- **Somebody does not wait**: following who is waited for comes to an end. -/
theorem Orderly.exists_not_waiting (h : Orderly g) (n : Nat) (unfinished : Unfinished g i)
    (bound : ∀ lock k, WaitsOver g i lock k → 2 < lock.rank + n) :
    ∃ j, Unfinished g j ∧ ∀ k, ¬Waits g j k := by
  -- on the locks that are left above the one that is waited over
  induction n generalizing i with
  | zero =>
    refine ⟨i, unfinished, fun k ⟨lock, waits⟩ => ?_⟩
    have above := bound lock k waits
    have below := lock.rank_le
    omega
  | succ n ih =>
    by_cases free : ∀ k, ¬Waits g i k
    · exact ⟨i, unfinished, free⟩
    · obtain ⟨k, waits⟩ := not_forall_not.1 free
      obtain ⟨lock, waits⟩ := waits
      have open_ : Unfinished g k := by
        obtain ⟨-, -, -, locks, holds, -⟩ := waits
        exact Option.isSome_iff_exists.2 ⟨locks, holds⟩
      refine ih open_ fun next l further => ?_
      have above := bound lock k waits
      have up := h.rank_lt waits further
      omega

variable [DecidableEq ι] {s : LockServer ι} {who : ι} {event : ι → AcceptedEvent}

/-- **What need not be waited for is granted.** -/
theorem exists_granted {r : Request} {locks : List Lock} (holds : s.held who = some locks)
    (free : ∀ need, r = .need need → ¬s.Spares need → s.Free who need.lock) :
    ∃ a s', s.Grants who r a s' := by
  cases r with
  | need need =>
    by_cases spares : s.Spares need
    · exact ⟨.ok (), s, rfl, locks, holds, .inl ⟨spares, rfl⟩⟩
    · exact ⟨.ok (), _, rfl, locks, holds, .inr ⟨spares, free need rfl spares, rfl⟩⟩
  | run q =>
    cases q with
    | begin => exact ⟨.ok (), _, rfl, rfl⟩
    | commit => exact ⟨.ok (), _, rfl, locks, holds, rfl⟩
    | rollback => exact ⟨(), _, rfl⟩
    | addCounter | setCounter => exact ⟨.ok (), s, rfl⟩
    | findByEventId | findByClientMsgId | readCounter | lockCounter | insertMessage =>
      exact ⟨.ok none, s, rfl⟩

/-- **Who does not wait can go on.** -/
theorem Orderly.exists_step (h : Orderly g) (unfinished : Unfinished g i)
    (free : ∀ k, ¬Waits g i k) : ∃ g', (granting event).Step i g g' := by
  obtain ⟨locks, holds⟩ := Option.isSome_iff_exists.1 unfinished
  have fits := h.fits i
  rw [holds] at fits
  cases talks : g.progress i with
  | waiting | finished =>
    rw [talks] at fits
    cases fits
  | talking rest =>
    rw [talks] at fits
    obtain ⟨c, ordered, covers⟩ := fits
    obtain ⟨may, rfl, -⟩ := covers locks rfl
    cases rest with
    | done value => cases ordered
    | tell note rest => exact ⟨_, .tell talks⟩
    | ask r rest =>
      have unheld (need : Need) (asks : r = .need need)
          (needed : ¬g.affairs.state.Spares need) :
          g.affairs.state.Free i need.lock := fun other theirs holds' mem => by
        subst asks
        by_contra ne
        exact free other ⟨need.lock, Ne.symm ne, unfinished, ⟨need, rest, talks, needed, rfl⟩,
          theirs, holds', mem⟩
      obtain ⟨a, s', granted⟩ := exists_granted holds unheld
      exact ⟨_, .ask talks granted⟩

/-- **Inserts never deadlock.** At no moment do unfinished transactions wait for each other in a
circle; and as long as one is unfinished, there is one that goes on without a fault. -/
theorem inserts_never_deadlock (event : ι → AcceptedEvent) (counters : String → Prop)
    {g : Inserts ι} (h : (inserting event).Reachable (.idle counters) g) :
    (∀ i, ¬Relation.TransGen (Waits g) i i) ∧
      ((∃ i, Unfinished g i) → ∃ i, Unfinished g i ∧ ∃ g', (granting event).Step i g g') := by
  have orderly := orderly_of_reachable h
  refine ⟨fun i circle => ?_, fun ⟨i, unfinished⟩ => ?_⟩
  · obtain ⟨lock, ⟨k, waits⟩, below⟩ := orderly.rank_lt_of_chain circle
    exact Nat.lt_irrefl _ (below lock k waits)
  · obtain ⟨j, unfinished, free⟩ := orderly.exists_not_waiting 3 unfinished fun _ _ _ => by omega
    exact ⟨j, unfinished, orderly.exists_step unfinished free⟩

end

/-- **Two inserts in different conversations share an event**: each holds the counter of its own
conversation, and the second waits for the first, which goes on. -/
theorem wait_for_shared_event :
    ∃ (event : Bool → AcceptedEvent) (g : Inserts Bool),
      (inserting event).Reachable (.idle fun _ => False) g ∧
        (event false).conversationId ≠ (event true).conversationId ∧
        WaitsOver g true (.eventId "e1") false ∧ (∀ i, ¬Relation.TransGen (Waits g) i i) ∧
        ∃ i, Unfinished g i ∧ ∃ g', (granting event).Step i g g' := by
  let event : Bool → AcceptedEvent := fun i =>
    ⟨"e1", none, if i then "c2" else "c1", "alice", none, "hello", none, .epoch⟩
  let S := inserting event
  have granted {i : Bool} {r : Request} {s s' : LockServer Bool} {a : Request.api.Answer r}
      (h : s.Grants i r a s') : S.answers i r s a s' := ⟨s, ⟨rfl, fun _ _ => id⟩, .inl h⟩
  have begun (i : Bool) (s : LockServer Bool) :
      S.answers i (.run .begin) s (.ok ()) (s.set i []) := granted ⟨rfl, rfl⟩
  have added (i : Bool) (k : String) (s : LockServer Bool) :
      S.answers i (.run (.addCounter k)) s (.ok ()) s := granted rfl
  have read (i : Bool) (k : String) (s : LockServer Bool) :
      S.answers i (.run (.lockCounter k)) s (.ok (some (some 0))) s := granted rfl
  have written (i : Bool) (k : String) (n : Int) (s : LockServer Bool) :
      S.answers i (.run (.setCounter k n)) s (.ok ()) s := granted rfl
  have makes (i : Bool) (k : String) (s : LockServer Bool) (new : ¬s.counters k)
      (free : (s.set i []).Free i (.counter k)) :
      S.answers i (.need (.make k)) (s.set i []) (.ok ())
        ((s.set i []).set i [.counter k]) :=
    granted ⟨rfl, [], LockServer.held_set_self, .inr ⟨new, free, rfl⟩⟩
  have takes (i : Bool) (lock : Lock) (s : LockServer Bool) (locks : List Lock)
      (free : (s.set i locks).Free i lock) :
      S.answers i (.need (.take lock)) (s.set i locks) (.ok ())
        ((s.set i locks).set i (lock :: locks)) :=
    granted ⟨rfl, locks, LockServer.held_set_self, .inr ⟨id, free, rfl⟩⟩
  have alone {i : Bool} {s : LockServer Bool} {locks : List Lock} {lock : Lock}
      (free : s.Free i lock) : (s.set i locks).Free i lock := fun other theirs holds mem => by
    by_contra ne
    exact ne (free other theirs ((LockServer.held_set_of_ne ne).symm.trans holds) mem)
  let locks : List Lock := [.eventId "e1", .counter "c1", .counter "c1", .counter "c1"]
  have beside (s : LockServer Bool) : (s.set false locks).Free true (.counter "c2") := by
    intro other theirs holds mem
    cases other with
    | true => rfl
    | false =>
      rw [LockServer.held_set_self] at holds
      cases holds
      simp [locks] at mem
  have nobody (i : Bool) (lock : Lock) : (LockServer.idle fun _ => False).Free i lock := nofun
  have opening : S.Reachable (.idle fun _ => False) (.opening (.idle fun _ => False)) := .opening
  have first := opening.step false (.begin rfl)
    |>.step false (.ask rfl (begun _ _))
    |>.step false (.ask rfl (makes _ _ _ id (alone (nobody _ _))))
    |>.step false (.ask rfl (added _ _ _))
    |>.step false (.ask rfl (takes _ _ _ _ (alone (alone (nobody _ _)))))
    |>.step false (.ask rfl (read _ _ _))
    |>.step false (.ask rfl (takes _ _ _ _ (alone (alone (alone (nobody _ _))))))
    |>.step false (.ask rfl (written _ _ _ _))
    |>.step false (.tell rfl)
    |>.step false (.ask rfl (takes _ _ _ _ (alone (alone (alone (alone (nobody _ _)))))))
  have run := first.step true (.begin rfl)
    |>.step true (.ask rfl (begun _ _))
    |>.step true (.ask rfl (makes _ _ _ id (alone (beside _))))
    |>.step true (.ask rfl (added _ _ _))
    |>.step true (.ask rfl (takes _ _ _ _ (alone (alone (beside _)))))
    |>.step true (.ask rfl (read _ _ _))
    |>.step true (.ask rfl (takes _ _ _ _ (alone (alone (alone (beside _))))))
    |>.step true (.ask rfl (written _ _ _ _))
    |>.step true (.tell rfl)
  have goes := inserts_never_deadlock event _ run
  exact ⟨event, _, run, by simp [event],
    ⟨by decide, rfl, ⟨.take (.eventId "e1"), _, rfl, id, rfl⟩, _, rfl, .head _⟩, goes.1,
    goes.2 ⟨true, rfl⟩⟩

end MessageIntake.Store.Sql
