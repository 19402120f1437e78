import MessageIntake.Proofs.Gathering
import MessageIntake.Proofs.Store.Transactions
/-!
# Inserting events in transactions at the same time

Any number of calls that insert one event each, behind a server of which no more is known than
`Server.Answers` says. What the server committed is, in the order of the commits, a run of the
store in memory, which gives the same numbers; and what a call returns tells whether its
event is in it.

The invariant is `Serial`; a call relies on being `Undisturbed`. How far a call has come is
told by what its transaction holds, if it is still open: `Idle`, `Locked`, `Raised`, `Ready`.
-/

namespace MessageIntake.Store.Sql

open Datastore (Fault)
open Server (Undisturbed Reply)

variable {ι : Type}

/-- What happened among calls. -/
abbrev History (ι : Type) := List (Happening ι api (Except Failure Message))

/-! ### The invariant -/

/-- **A call's result is in keeping** with what was committed. A message that was returned is
that of the call's row. After a failure there is no row of the call, unless it was the commit
that failed; and if a key was not unique, another call's row has it. -/
def Settles (event : ι → AcceptedEvent) (c : Affairs ι api (Except Failure Message) (Server ι))
    (i : ι) : Except Failure Message → Prop
  | .ok m => ∃ p ∈ c.state.postings, p.who = i ∧ p.message = m
  | .error failure =>
    ((∀ p ∈ c.state.postings, p.who ≠ i) ∨
        ∃ fault : Fault, failure = fault.failure ∧
          .answered i .commit (.error fault) ∈ c.history) ∧
      (failure.isNotUnique →
        ∃ p ∈ c.state.postings, p.who ≠ i ∧ p.message.SharesKey (event i))

/-- **The invariant of inserts at the same time.** -/
structure Serial (event : ι → AcceptedEvent)
    (c : Affairs ι api (Except Failure Message) (Server ι)) : Prop where
  sound : c.state.Sound event
  committed : ∀ p ∈ c.state.postings, ∃ a, .answered p.who .commit a ∈ c.history
  settled : ∀ i result, .ended i result ∈ c.history → Settles event c i result

variable {event : ι → AcceptedEvent}
  {c d : Affairs ι api (Except Failure Message) (Server ι)} {i : ι}

/-- A result stays in keeping while the call is undisturbed. -/
theorem Settles.mono {result : Except Failure Message} (h : Settles event c i result)
    (undisturbed : Undisturbed i c.state d.state) (later : c.history ⊆ d.history) :
    Settles event d i result := by
  match result with
  | .ok m => exact h.imp fun p hp => ⟨undisturbed.grown.subset hp.1, hp.2⟩
  | .error failure =>
    obtain ⟨absent, clash⟩ := h
    constructor
    · rcases absent with absent | ⟨fault, same, failed⟩
      · exact .inl fun p mem own => absent p (undisturbed.others p mem own) own
      · exact .inr ⟨fault, same, later failed⟩
    · exact fun race => (clash race).imp fun p hp => ⟨undisturbed.grown.subset hp.1, hp.2⟩

/-- **A step that is no end** keeps the invariant, if it disturbs no other call and leaves the
server sound. -/
theorem Serial.push (h : Serial event c) {question : Statement} {a : api.Answer question}
    {state : Server ι} (unended : ∀ result, .ended i result ∉ c.history)
    (sound : state.Sound event)
    (others : ∀ other, other ≠ i → Undisturbed other c.state state)
    (committed : ∀ p ∈ state.postings, p ∈ c.state.postings ∨ p.who = i ∧ question = .commit) :
    Serial event (c.answered i question a state) where
  sound := sound
  committed p hp := by
    rcases committed p hp with old | ⟨rfl, rfl⟩
    · obtain ⟨b, mem⟩ := h.committed p old
      exact ⟨b, .tail _ mem⟩
    · exact ⟨a, .head _⟩
  settled j result mem := by
    rw [Affairs.ended_mem_answered] at mem
    -- who has ended does not go on, so that this was another call's step
    have other : j ≠ i := fun same => unended result (same ▸ mem)
    exact (h.settled j result mem).mono (others j other) (List.subset_cons_self ..)

/-- **An end** keeps the invariant if its result is in keeping. -/
theorem Serial.ended (h : Serial event c) {result : Except Failure Message}
    (settles : Settles event c i result) : Serial event (c.ended i result) where
  sound := h.sound
  committed p hp := (h.committed p hp).imp fun _ mem => .tail _ mem
  settled j other mem := by
    have kept : Settles event c j other := by
      rcases Affairs.ended_mem_ended.1 mem with ⟨rfl, rfl⟩ | mem
      · exact settles
      · exact h.settled j other mem
    exact kept.mono (.refl j _) (List.subset_cons_self ..)

/-- **The discipline of inserts.** -/
def discipline (event : ι → AcceptedEvent) :
    Discipline ι api (Except Failure Message) (Server ι) where
  inv := Serial event
  rely := Undisturbed
  rely_refl := .refl
  rely_trans _ _ _ _ := .trans

/-- A result stays in keeping whatever others do meanwhile. -/
theorem Settles.of_meanwhile {result : Except Failure Message} (h : Settles event c i result)
    (while_cd : (discipline event).Meanwhile i c d) : Settles event d i result := by
  obtain ⟨later, eq, _⟩ := while_cd.aside
  exact h.mono while_cd.rely (eq ▸ List.subset_append_right later _)

/-! ### What a call knows of its transaction -/

/-- **What a call knows**: it has no committed row, and its transaction, if it is still open,
is as `K` says. -/
structure Knows (i : ι) (K : Server ι → Transaction ι → Prop) (s : Server ι) : Prop where
  absent : ∀ p ∈ s.postings, p.who ≠ i
  holds : ∀ t, s.transactions i = some t → K s t

/-- Knowledge that rests on the counters of the transaction only. -/
def Steady (K : Server ι → Transaction ι → Prop) : Prop :=
  ∀ s s' t, (∀ k ∈ t.locks, s'.counters k = s.counters k) → K s t → K s' t

/-- Nothing was inserted, and no counter moved from its committed value. -/
structure Idle (k : String) (s : Server ι) (t : Transaction ι) : Prop where
  nothing : t.postings = []
  unmoved : ∀ l v, t.counters l = some v → l = k ∧ k ∈ t.locks ∧ v = (s.counters k).getD 0

/-- The counter at `n` is there, and kept from others. -/
structure Locked (k : String) (n : Int) (s : Server ι) (t : Transaction ι) : Prop where
  nothing : t.postings = []
  locked : k ∈ t.locks
  there : (s.value? t k).isSome
  value : (s.counters k).getD 0 = n
  only : ∀ l, l ≠ k → t.counters l = none

/-- The counter, committed at `n`, is raised by one. -/
structure Raised (k : String) (n : Int) (s : Server ι) (t : Transaction ι) : Prop where
  nothing : t.postings = []
  locked : k ∈ t.locks
  value : (s.counters k).getD 0 = n
  counters : ∀ l, t.counters l = if l = k then some (n + 1) else none

/-- The row of a message is inserted under the number to which its counter was raised. -/
def Ready (m : Message) (_ : Server ι) (t : Transaction ι) : Prop :=
  ∃ p, t.postings = [p] ∧ p.message = m ∧
    ∀ k, t.counters k = if k = p.event.conversationId then some p.seqNo else none

theorem steady_idle (k : String) : Steady (Idle k (ι := ι)) := fun _ _ _ same h =>
  ⟨h.nothing, fun l v wrote => by
    obtain ⟨rfl, locked, value⟩ := h.unmoved l v wrote
    exact ⟨rfl, locked, (same l locked).symm ▸ value⟩⟩

theorem steady_locked (k : String) (n : Int) : Steady (Locked k n (ι := ι)) :=
  fun s s' t same h => by
    have kept := same k h.locked
    refine ⟨h.nothing, h.locked, ?_, kept ▸ h.value, h.only⟩
    have there := h.there
    rwa [Server.value?, ← kept] at there

theorem steady_raised (k : String) (n : Int) : Steady (Raised k n (ι := ι)) :=
  fun _ _ _ same h => ⟨h.nothing, h.locked, same k h.locked ▸ h.value, h.counters⟩

theorem steady_ready (m : Message) : Steady (Ready m (ι := ι)) := fun _ _ _ _ h => h

variable {K : Server ι → Transaction ι → Prop}

/-- **Knowledge lasts** while the call is undisturbed. -/
theorem Knows.mono {s s' : Server ι} (h : Knows i K s) (steady : Steady K)
    (undisturbed : Undisturbed i s s') : Knows i K s' where
  absent p mem own := h.absent p (undisturbed.others p mem own) own
  holds t open_ := by
    obtain ⟨before, same⟩ := undisturbed.own t open_
    exact steady s s' t same (h.holds t before)

/-- **What a call may make of a server** with a statement: it stays sound, no other call is
disturbed, and only a commit adds rows, which are the call's. -/
structure Proceeds (event : ι → AcceptedEvent) (i : ι) (question : Statement)
    (s s' : Server ι) : Prop where
  sound : s'.Sound event
  others : ∀ other, other ≠ i → Undisturbed other s s'
  grown : s.postings ⊆ s'.postings
  committed : ∀ p ∈ s'.postings, p ∈ s.postings ∨ p.who = i ∧ question = .commit

variable {question : Statement} {s s' : Server ι} {t : Transaction ι}

/-- To lose transactions is all right. -/
theorem Proceeds.of_loses (sound : s.Sound event) (loses : s.Loses s') :
    Proceeds event i question s s' where
  sound := sound.loses loses
  others other _ := loses.undisturbed other
  grown := loses.postings ▸ List.Subset.refl _
  committed _ hp := .inl (loses.postings ▸ hp)

/-- A step that is all right is allowed. -/
theorem Proceeds.allows (h : Proceeds event i question s s') (inv : Serial event d)
    (unended : ∀ result, .ended i result ∉ d.history) (loses : d.state.Loses s)
    (a : api.Answer question) : (discipline event).Allows i d (d.answered i question a s') := by
  have others : ∀ other, other ≠ i → Undisturbed other d.state s' := fun other ne =>
    (loses.undisturbed other).trans (h.others other ne)
  refine ⟨inv.push unended h.sound others fun p hp => ?_, others⟩
  rw [← loses.postings]
  exact h.committed p hp

/-! ### One call among others -/

variable [DecidableEq ι]

/-- **Inserts at the same time** behind one server; call `i` inserts `event i`. -/
def inserts (event : ι → AcceptedEvent) :
    Setting ι api Telemetry (Except Failure Message) (Server ι) where
  part i := answer (.insert (event i))
  answers := Server.Answers
  hears _ _ s := s

/-- **What is left of a call's statements is sound**: none of its steps will break the
discipline, nor will the end, a fault being returned as the failure that it makes. -/
def Right (event : ι → AcceptedEvent) (i : ι) (rest : Talk (Except Fault Message))
    (c : Affairs ι api (Except Failure Message) (Server ι)) : Prop :=
  rest.wp ((discipline event).spec (inserts event) i)
    (fun result => (discipline event).ending i (result.mapError Fault.failure)) c

/-- A call may end once its result is in keeping. -/
theorem right_done {result : Except Fault Message}
    (settles : Settles event c i (result.mapError Fault.failure)) :
    Right event i (.done result) c := by
  intro d while_cd
  exact ⟨while_cd.inv.ended (settles.of_meanwhile while_cd), fun other _ => .refl other _⟩

/-- **Rolling back** after a fault. -/
theorem right_abandon {fault : Fault} (settles : Settles event c i (.error fault.failure)) :
    Right event i (abandon fault) c := by
  rintro d while_cd _ state ⟨s, loses, rolledBack⟩
  have kept := settles.of_meanwhile while_cd
  -- with or without an effect, a rollback only loses transactions
  have lost : d.state.Loses state := by
    rcases rolledBack with rfl | rfl
    · exact loses
    · exact loses.trans (s.drop_loses i)
  have undisturbed := lost.undisturbed
  refine ⟨⟨while_cd.inv.push while_cd.unended (while_cd.inv.sound.loses lost)
    (fun other _ => undisturbed other) fun p hp => .inl (lost.postings ▸ hp),
    fun other _ => undisturbed other⟩, ?_⟩
  exact right_done (kept.mono (undisturbed i) (List.subset_cons_self ..))

/-- **A statement** is sound if the call is right to go on with each of its answers. -/
theorem right_ask {question : Statement}
    {rest : api.Answer question → Talk (Except Fault Message)} (knows : Knows i K c.state)
    (steady : Steady K)
    (responds : ∀ d s a state, Serial event d → (∀ result, .ended i result ∉ d.history) →
      d.state.Loses s → Knows i K s → Server.Responds i question s a state →
        (discipline event).Allows i d (d.answered i question a state) ∧
          Right event i (rest a) (d.answered i question a state)) :
    Right event i (.ask question rest) c := by
  rintro d while_cd a state ⟨s, loses, response⟩
  exact responds d s a state while_cd.inv while_cd.unended loses
    (knows.mono steady (while_cd.rely.trans (loses.undisturbed i))) response

/-- To write in the call's transaction is all right, if the server stays sound. -/
theorem Proceeds.of_set (sound : (s.set i t).Sound event) :
    Proceeds event i question s (s.set i t) where
  sound := sound
  others _ ne := Server.set_undisturbed s t ne
  grown := List.Subset.refl _
  committed _ hp := .inl hp

/-- **A reply** is all right if the effect of its statement is, whether it came to it or
not. -/
theorem Proceeds.of_reply {α : Type} {clash : Prop} {effect : α → Server ι → Prop}
    {r : Except Fault α} (sound : s.Sound event) (reply : Reply i clash effect s r s')
    (effects : ∀ x s', effect x s' → Proceeds event i question s s') :
    Proceeds event i question s s' := by
  cases r with
  | ok x => exact effects x s' reply
  | error fault =>
    obtain ⟨_, rfl | rfl | ⟨x, took⟩⟩ := reply
    · exact .of_loses sound (.refl _)
    · exact .of_loses sound (s.drop_loses i)
    · exact effects x s' took

/-- **A reply before the commit**: after a fault the call rolls back. -/
theorem right_reply {a : api.Answer question} {α : Type} {clash : Prop}
    {effect : α → Server ι → Prop} {r : Except Fault α}
    (rest : Except Fault α → Talk (Except Fault Message)) (early : question ≠ .commit)
    (inv : Serial event d) (unended : ∀ result, .ended i result ∉ d.history)
    (loses : d.state.Loses s) (knows : Knows i K s) (reply : Reply i clash effect s r s')
    (effects : ∀ x s', effect x s' → Proceeds event i question s s')
    (clashes : clash → ∃ p ∈ s.postings, p.message.SharesKey (event i))
    (fails : ∀ fault, rest (.error fault) = abandon fault)
    (goes : ∀ x, effect x s' → (∀ p ∈ s'.postings, p.who ≠ i) →
      Right event i (rest (.ok x)) (d.answered i question a s')) :
    (discipline event).Allows i d (d.answered i question a s') ∧
      Right event i (rest r) (d.answered i question a s') := by
  have proceeds := Proceeds.of_reply (inv.sound.loses loses) reply effects
  have absent : ∀ p ∈ s'.postings, p.who ≠ i := fun p hp =>
    knows.absent p ((proceeds.committed p hp).resolve_right fun late => early late.2)
  refine ⟨proceeds.allows inv unended loses a, ?_⟩
  cases r with
  | ok x => exact goes x reply absent
  | error fault =>
    rw [fails]
    refine right_abandon ⟨.inl absent, fun notUnique => ?_⟩
    obtain ⟨p, hp, shares⟩ := clashes (reply.1 notUnique)
    exact ⟨p, proceeds.grown hp, knows.absent p hp, shares⟩

/-- What a call knows of the transaction that it wrote. -/
theorem Knows.of_set (absent : ∀ p ∈ (s.set i t).postings, p.who ≠ i) (holds : K (s.set i t) t) :
    Knows i K (s.set i t) where
  absent := absent
  holds t' open_ := by
    obtain rfl : t = t' := by simpa [Server.set] using open_
    exact holds

/-! ### The statements of an insert -/

/-- **The commit** of a row that is ready. -/
theorem right_commit {m : Message} (knows : Knows i (Ready m) c.state) :
    Right event i (commit m) c := by
  refine right_ask knows (steady_ready m) fun d s a s' inv unended loses knows reply => ?_
  have sound := inv.sound.loses loses
  have proceeds : Proceeds event i .commit s s' := by
    refine .of_reply sound reply ?_
    rintro _ _ ⟨t, open_, rfl⟩
    obtain ⟨p, only, _, wrote⟩ := knows.holds t open_
    refine ⟨sound.commit open_ only wrote, fun other => sound.commit_undisturbed open_,
      List.subset_append_left .., fun x hx => (List.mem_append.1 hx).imp_right fun hx => ⟨?_, rfl⟩⟩
    exact (sound.pending i t open_ x hx).mine
  refine ⟨proceeds.allows inv unended loses a, ?_⟩
  cases a with
  | ok _ =>
    obtain ⟨t, open_, rfl⟩ := reply
    obtain ⟨p, only, same, _⟩ := knows.holds t open_
    have mem : p ∈ t.postings := by simp [only]
    refine right_done ⟨p, List.mem_append_right _ mem, ?_, same⟩
    exact (sound.pending i t open_ p mem).mine
  | error fault =>
    -- nobody knows whether the row is there, and the invariant says no more than that
    exact right_abandon ⟨.inr ⟨fault, rfl, .head _⟩, fun notUnique => (reply.1 notUnique).elim⟩

/-- **Inserting the message** under the number to which its counter was raised. A row that
stands against it shares a key with it: the number itself is above those of all rows. -/
theorem right_insertNumbered {n : Int}
    (knows : Knows i (Raised (event i).conversationId n) c.state) :
    Right event i (insertNumbered (event i) (n + 1)) c := by
  refine right_ask knows (steady_raised _ n) fun d s a s' inv unended loses knows reply => ?_
  have sound := inv.sound.loses loses
  have number : ∀ t, s.transactions i = some t →
      n = count (event i).conversationId s.postings := fun t open_ => by
    rw [← sound.counted, (knows.holds t open_).value]
  refine right_reply (fun answer => orRollback commit (insertedMessage? answer)) nofun inv
    unended loses knows reply ?effects ?clashes (fun _ => rfl) ?goes
  case effects =>
    rintro _ _ ⟨t, id, createdAt, open_, free, others, _, rfl⟩
    have raised := knows.holds t open_
    exact .of_set (sound.post open_ raised.nothing
      ⟨rfl, rfl, raised.locked, congrArg (· + 1) (number t open_), free, knows.absent⟩ others)
  case clashes =>
    rintro ⟨p, ⟨t, open_, mem⟩, clash⟩
    rw [(knows.holds t open_).nothing] at mem
    have mem := mem.resolve_right List.not_mem_nil
    refine ⟨p, mem, clash.resolve_right ?_⟩
    rintro ⟨conversation, same⟩
    -- the number is above those of all rows, since it is one more than they are
    obtain ⟨m, replays⟩ := sound.replays
    have le := replays.seqNo_le mem
    rw [conversation, same, ← number t open_] at le
    omega
  case goes =>
    rintro _ ⟨t, id, createdAt, open_, _, _, rfl, rfl⟩ absent
    have raised := knows.holds t open_
    refine right_commit (.of_set absent
      ⟨⟨i, event i, n + 1, id, createdAt⟩, ?_, rfl, raised.counters⟩)
    rw [Transaction.post, raised.nothing, List.nil_append]

/-- **Raising the counter** that was locked, and what follows. -/
theorem right_raise {n : Int} (knows : Knows i (Locked (event i).conversationId n) c.state) :
    Right event i
      (.ask (.setCounter (event i).conversationId (n + 1)) <| orRollback fun _ =>
        .tell (allocatedLine (event i).conversationId (n + 1)) (insertNumbered (event i) (n + 1)))
      c := by
  refine right_ask knows (steady_locked _ n) fun d s a s' inv unended loses knows reply => ?_
  refine right_reply _ nofun inv unended loses knows reply ?effects False.elim (fun _ => rfl) ?goes
  case effects =>
    rintro _ _ ⟨t, open_, ⟨_, rfl⟩ | ⟨_, free, rfl⟩⟩
    · exact .of_loses (inv.sound.loses loses) (.refl _)
    · exact .of_set ((inv.sound.loses loses).write open_ free _)
  case goes =>
    rintro _ ⟨t, open_, ⟨absent, _⟩ | ⟨_, _, rfl⟩⟩ others
    · have there := (knows.holds t open_).there
      simp [absent] at there
    · have locked := knows.holds t open_
      have raised : Knows i (Raised (event i).conversationId n)
          (s.set i (t.write (event i).conversationId (n + 1))) := by
        refine .of_set others ⟨locked.nothing, List.mem_cons_self .., locked.value, fun l => ?_⟩
        rw [Transaction.write_counters]
        split
        · rfl
        · next ne => exact locked.only l ne
      intro e while_de
      exact ⟨⟨while_de.inv, fun other _ => .refl other _⟩,
        right_insertNumbered (raised.mono (steady_raised _ n) while_de.rely)⟩

/-- **Locking the counter**, and what follows. -/
theorem right_lock (knows : Knows i (Idle (event i).conversationId) c.state) :
    Right event i
      (.ask (.lockCounter (event i).conversationId) fun answer =>
        orRollback
          (fun n =>
            .ask (.setCounter (event i).conversationId (n + 1)) <| orRollback fun _ =>
              .tell (allocatedLine (event i).conversationId (n + 1))
                (insertNumbered (event i) (n + 1)))
          (lockedValue? answer)) c := by
  refine right_ask knows (steady_idle _) fun d s a s' inv unended loses knows reply => ?_
  refine right_reply (fun answer => orRollback _ (lockedValue? answer)) nofun inv unended loses
    knows reply ?effects False.elim (fun _ => rfl) ?goes
  case effects =>
    rintro _ _ ⟨t, open_, ⟨_, _, rfl⟩ | ⟨n, _, free, _, rfl⟩⟩
    · exact .of_loses (inv.sound.loses loses) (.refl _)
    · exact .of_set ((inv.sound.loses loses).lock open_ free)
  case goes =>
    rintro _ ⟨t, open_, ⟨_, rfl, _⟩ | ⟨n, seen, _, rfl, rfl⟩⟩ absent
    · exact right_abandon ⟨.inl absent, nofun⟩
    · have idle := knows.holds t open_
      -- what the transaction sees is what was committed, for it moved no counter
      have value : (s.counters (event i).conversationId).getD 0 = n := by
        rw [Server.value?, Option.or_eq_some_iff] at seen
        rcases seen with own | ⟨_, committed⟩
        · exact (idle.unmoved _ n own).2.2.symm
        · rw [committed, Option.getD_some]
      refine right_raise (.of_set absent
        ⟨idle.nothing, List.mem_cons_self .., Option.isSome_iff_exists.2 ⟨n, seen⟩, value,
          fun l ne => Option.eq_none_iff_forall_ne_some.2 fun v wrote => ?_⟩)
      exact ne (idle.unmoved l v wrote).1

/-- **Giving out the next number** within a transaction that has moved no counter yet. -/
theorem right_allocate (knows : Knows i (Idle (event i).conversationId) c.state) :
    Right event i (allocate (event i).conversationId (insertNumbered (event i))) c := by
  refine right_ask knows (steady_idle _) fun d s a s' inv unended loses knows reply => ?_
  refine right_reply _ nofun inv unended loses knows reply ?effects False.elim (fun _ => rfl) ?goes
  case effects =>
    rintro _ _ ⟨t, open_, ⟨_, rfl⟩ | ⟨_, free, rfl⟩⟩
    · exact .of_loses (inv.sound.loses loses) (.refl _)
    · exact .of_set ((inv.sound.loses loses).write open_ free 0)
  case goes =>
    rintro _ ⟨t, open_, ⟨_, rfl⟩ | ⟨unseen, _, rfl⟩⟩ absent
    · exact right_lock knows
    · have idle := knows.holds t open_
      have uncommitted : s.counters (event i).conversationId = none :=
        (Option.or_eq_none_iff.1 unseen).2
      refine right_lock (.of_set absent ⟨idle.nothing, fun l v wrote => ?_⟩)
      rw [Transaction.write_counters] at wrote
      split at wrote
      · next same =>
        refine ⟨same, List.mem_cons_self .., ?_⟩
        rw [Server.set, uncommitted]
        exact (Option.some.inj wrote).symm
      · next ne => exact absurd (idle.unmoved l v wrote).1 ne

/-- **A call** is sound from its beginning on. -/
theorem right_insertSequenced (absent : ∀ p ∈ c.state.postings, p.who ≠ i) :
    Right event i (insertSequenced (event i)) c := by
  have knows : Knows i (fun _ _ => True) c.state := ⟨absent, fun _ _ => trivial⟩
  refine right_ask knows (fun _ _ _ _ => id) fun d s a s' inv unended loses knows reply => ?_
  refine right_reply _ nofun inv unended loses knows reply ?effects False.elim (fun _ => rfl) ?goes
  case effects =>
    rintro _ _ rfl
    exact .of_set ((inv.sound.loses loses).set (by simp [Transaction.fresh])
      (by simp [Transaction.fresh]) (by simp [Transaction.fresh]) (by simp [Transaction.fresh]))
  case goes =>
    rintro _ rfl absent
    exact right_allocate (.of_set absent ⟨rfl, nofun⟩)

/-- **All calls keep the discipline**, from empty tables on. -/
theorem kept (event : ι → AcceptedEvent) : (discipline event).Kept (inserts event) .empty where
  opening := ⟨Server.sound_empty event, by simp [Server.empty], by simp⟩
  begins who c inv _ := {
    sound := inv.sound
    committed := fun p hp => (inv.committed p hp).imp fun _ => .tail _
    settled := fun i result mem =>
      (inv.settled i result (Affairs.ended_mem_began.1 mem)).mono (.refl i _)
        (List.subset_cons_self ..) }
  sound who c inv untouched := by
    have absent : ∀ p ∈ c.state.postings, p.who ≠ who := fun p hp same => by
      obtain ⟨_, mem⟩ := inv.committed p hp
      exact untouched _ ((List.mem_cons.1 mem).resolve_left (by simp)) same
    have part : (inserts event).part who =
        (insertSequenced (event who)).bind fun r => .done (r.mapError Fault.failure) := rfl
    rw [Discipline.Sound, part, Dialogue.wp_bind]
    exact right_insertSequenced absent

/-! ### All calls together -/

variable {g : Gathering ι api Telemetry (Except Failure Message) (Server ι)}

/-- **The invariant holds in every run.** -/
theorem serial_of_reachable (h : (inserts event).Reachable .empty g) :
    Serial event g.affairs :=
  ((kept event).sound_of_reachable h).1

/-- **Inserts at the same time are serializable in the order of their commits**, in every run
of any number of calls, whatever fails on the way. A store in memory that replays the committed
rows takes each of them under its own number, so that the numbers of a conversation have no
gap; and a counter that is read is the one of that store. Each row is that of one call and
holds its event. A call that returns a message has committed it. A call that fails has
committed nothing, unless it was its commit that failed; and if it failed for a key that was
not unique, then a row of another call has its `eventId` or its `clientMsgId`. -/
theorem inserts_serializable (event : ι → AcceptedEvent)
    (h : (inserts event).Reachable .empty g) :
    (∃ m, Replays g.affairs.state.postings m ∧
      ∀ who k row s', Server.Answers who (.readCounter k) g.affairs.state (.ok row) s' →
        lastSeq? (.ok row) = .ok (m.lastSeq k)) ∧
    (∀ k, (g.affairs.state.postings.filter (·.event.conversationId == k)).map (·.seqNo) =
      (List.range (count k g.affairs.state.postings)).map fun n : Nat => (n : Int) + 1) ∧
    (g.affairs.state.postings.map (·.who)).Nodup ∧
    (∀ p ∈ g.affairs.state.postings, p.event = event p.who) ∧
    (∀ i m, .ended i (.ok m) ∈ g.affairs.history →
      ∃ p ∈ g.affairs.state.postings, p.who = i ∧ p.message = m) ∧
    (∀ i failure, .ended i (.error failure) ∈ g.affairs.history →
      ((∀ p ∈ g.affairs.state.postings, p.who ≠ i) ∨
        ∃ fault : Fault, failure = fault.failure ∧
          .answered i .commit (.error fault) ∈ g.affairs.history) ∧
      (failure.isNotUnique →
        ∃ p ∈ g.affairs.state.postings, p.who ≠ i ∧ p.message.SharesKey (event i))) := by
  have serial := serial_of_reachable h
  obtain ⟨m, replays⟩ := serial.sound.replays
  refine ⟨⟨m, replays, fun who k row s' read => ?_⟩, replays.seqNos, serial.sound.once,
    serial.sound.owned, fun i m mem => serial.settled i (.ok m) mem,
    fun i failure mem => serial.settled i (.error failure) mem⟩
  obtain ⟨s, loses, rfl, _⟩ := read
  have counted := serial.sound.counted k
  rw [loses.counters, replays.lastSeq_eq, ← counted]
  cases g.affairs.state.counters k <;> rfl

/-- **A commit whose reply is lost**: the call fails, and its row is committed. Another call of the
same conversation, begun in between, gets the next number. -/
theorem commit_with_lost_reply :
    ∃ (event : Bool → AcceptedEvent)
      (g : Gathering Bool api Telemetry (Except Failure Message) (Server Bool)) (row : Message),
      (inserts event).Reachable .empty g ∧
        .ended false (.error (Fault.failure .workerCrashed)) ∈ g.affairs.history ∧
        .ended true (.ok row) ∈ g.affairs.history ∧ row.seqNo = 2 ∧
        g.affairs.state.postings = [⟨false, event false, 1, 7, (event false).createdAt⟩,
          ⟨true, event true, 2, 8, (event true).createdAt⟩] ∧
        ∃ m, Replays g.affairs.state.postings m := by
  let event : Bool → AcceptedEvent := fun
    | false => ⟨"e1", none, "c1", "alice", none, "hello", none, .epoch⟩
    | true => ⟨"e2", none, "c1", "bob", none, "hello", none, .epoch⟩
  let k := "c1"
  let t₁ : Transaction Bool := Transaction.fresh.write k 0
  let t₂ := (t₁.lock k).write k 1
  let p : Posting Bool := ⟨false, event false, 1, 7, .epoch⟩
  let t₃ : Transaction Bool := (Transaction.fresh.lock k).write k 2
  let q : Posting Bool := ⟨true, event true, 2, 8, .epoch⟩
  let s₁ : Server Bool := Server.empty.set false .fresh
  let s₂ := s₁.set true .fresh
  let s₃ := s₂.set false t₁
  let s₄ := s₃.set false (t₁.lock k)
  let s₅ := s₄.set false t₂
  let s₆ := s₅.set false (t₂.post p)
  let s₇ := s₆.commit false (t₂.post p)
  let s₈ := s₇.set true (Transaction.fresh.lock k)
  let s₉ := s₈.set true t₃
  let s' := s₉.set true (t₃.post q)
  -- the second transaction keeps nothing to itself while the first one is open
  have alone : ∀ s : Server Bool, s.transactions true = some .fresh → s.Free false k := by
    rintro s begun (_ | _) t found held
    · rfl
    · obtain rfl : Transaction.fresh = t := Option.some.inj (begun.symm.trans found)
      cases held
  have after : ∀ s : Server Bool, s.transactions false = none → s.Free true k := by
    rintro s ended (_ | _) t found -
    · cases ended.symm.trans found
    · rfl
  have began : Server.Answers false .begin .empty (.ok ()) s₁ := ⟨_, .refl _, rfl⟩
  have began' : Server.Answers true .begin s₁ (.ok ()) s₂ := ⟨_, .refl _, rfl⟩
  have added : Server.Answers false (.addCounter k) s₂ (.ok ()) s₃ :=
    ⟨_, .refl _, _, rfl, .inr ⟨rfl, alone _ rfl, rfl⟩⟩
  have locked : Server.Answers false (.lockCounter k) s₃ (.ok (some (some 0))) s₄ :=
    ⟨_, .refl _, _, rfl, .inr ⟨0, rfl, alone _ rfl, rfl, rfl⟩⟩
  have raised : Server.Answers false (.setCounter k 1) s₄ (.ok ()) s₅ :=
    ⟨_, .refl _, _, rfl, .inr ⟨rfl, alone _ rfl, rfl⟩⟩
  have posted : Server.Answers false (.insertMessage (event false) 1) s₅
      (.ok (some (.ofMessage p.message))) s₆ := by
    refine ⟨_, .refl _, t₂, 7, .epoch, rfl, List.forall_mem_nil _, ?_, rfl, rfl⟩
    rintro (_ | _) _ ⟨⟩ p mem
    all_goals cases mem
  have lost : Server.Answers false .commit s₆ (.error .workerCrashed) s₇ :=
    ⟨_, .refl _, fun refused => Bool.noConfusion refused, .inr (.inr ⟨(), _, rfl, rfl⟩)⟩
  have rolledBack : ∀ (who : Bool) (s : Server Bool), Server.Answers who .rollback s () s :=
    fun _ s => ⟨s, .refl s, .inl rfl⟩
  have added' : Server.Answers true (.addCounter k) s₇ (.ok ()) s₇ :=
    ⟨_, .refl _, _, rfl, .inl ⟨rfl, rfl⟩⟩
  have locked' : Server.Answers true (.lockCounter k) s₇ (.ok (some (some 1))) s₈ :=
    ⟨_, .refl _, _, rfl, .inr ⟨1, rfl, after _ rfl, rfl, rfl⟩⟩
  have raised' : Server.Answers true (.setCounter k 2) s₈ (.ok ()) s₉ :=
    ⟨_, .refl _, _, rfl, .inr ⟨rfl, after _ rfl, rfl⟩⟩
  have posted' : Server.Answers true (.insertMessage (event true) 2) s₉
      (.ok (some (.ofMessage q.message))) s' := by
    refine ⟨_, .refl _, t₃, 8, .epoch, rfl, ?_, ?_, rfl, rfl⟩
    · have one : s₉.postings = [p] := rfl
      rw [one, List.forall_mem_singleton]
      simp [Posting.Clashes, Posting.message, Message.SharesKey, messageOf, p, event]
    · rintro (_ | _) _ ⟨⟩ p mem
      cases mem
  have committed : Server.Answers true .commit s' (.ok ()) (s'.commit true (t₃.post q)) :=
    ⟨_, .refl _, _, rfl, rfl⟩
  have opening : (inserts event).Reachable .empty (.opening .empty) := .opening
  have run := opening.step false (.begin rfl)
    |>.step true (.begin rfl)
    |>.step false (.ask rfl began)
    |>.step true (.ask rfl began')
    |>.step false (.ask rfl added)
    |>.step false (.ask rfl locked)
    |>.step false (.ask rfl raised)
    |>.step false (.tell rfl)
    |>.step false (.ask rfl posted)
    |>.step false (.ask rfl lost)
    |>.step true (.ask rfl added')
    |>.step true (.ask rfl locked')
    |>.step true (.ask rfl raised')
    |>.step true (.tell rfl)
    |>.step true (.ask rfl posted')
    |>.step true (.ask rfl committed)
    |>.step false (.ask rfl (rolledBack _ _))
    |>.step true (.finish rfl)
    |>.step false (.finish rfl)
  exact ⟨event, _, q.message, run, .head _, .tail _ (.head _), rfl, rfl,
    (inserts_serializable _ run).1.imp fun _ => And.left⟩

end MessageIntake.Store.Sql
