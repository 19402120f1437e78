import Mathlib.Logic.Function.Basic
import MessageIntake.Proofs.Store.Ledger
import MessageIntake.Store.Sql
/-!
# Transactions at the same time

What an SQL server may answer to the statements of any number of transactions. Of the server
no more is taken than this. A transaction keeps each row of `conversation_seq` that it
inserted, locked or updated to itself until it ends. A statement that meets such a row of
another transaction waits, and so does an insert whose unique keys meet an uncommitted row of
another transaction; waiting is that there is no answer yet. A lock reads the committed value,
or the transaction's own. A transaction that failed, was dropped or was rolled back leaves no
trace. A fault may come with any statement, whether or not the statement took effect, and a
transaction may be lost at any time.

Main statements: `Server.Sound`, which ties the locks, the uncommitted rows and the committed
ones together, is kept when a transaction is lost (`Sound.loses`), when a transaction writes
(`Sound.set`) and when it is committed (`Sound.commit`).
-/

namespace MessageIntake.Store.Sql

open Datastore (Fault)
open Function (update)

variable {ι : Type}

/-! ### The tables -/

/-- **A row of `messages`**, and the participant that inserted it. Its identifier is the
server's choice, and so is the instant that it keeps for the one that it was given. -/
structure Posting (ι : Type) where
  who : ι
  event : AcceptedEvent
  seqNo : Int
  id : Int
  createdAt : Timestamp

/-- The message in a row. -/
def Posting.message (p : Posting ι) : Message :=
  { messageOf p.event p.id p.seqNo with createdAt := p.createdAt }

/-- **A row stands against another** that is to be inserted: it has one of its unique keys. -/
def Posting.Clashes (p : Posting ι) (event : AcceptedEvent) (seqNo : Int) : Prop :=
  p.message.SharesKey event ∨ p.event.conversationId = event.conversationId ∧ p.seqNo = seqNo

theorem Posting.Clashes.symm {p x : Posting ι} (h : p.Clashes x.event x.seqNo) :
    x.Clashes p.event p.seqNo := by
  rcases h with (event | ⟨id, hx, hp⟩) | ⟨conversation, number⟩
  · exact .inl (.inl event.symm)
  · exact .inl (.inr ⟨id, hp, hx⟩)
  · exact .inr ⟨conversation.symm, number.symm⟩

/-- **A transaction**: its own counters and rows, and the counters that it keeps to itself. -/
structure Transaction (ι : Type) where
  counters : String → Option Int
  postings : List (Posting ι)
  locks : List String

namespace Transaction

/-- A transaction that has done nothing. -/
def fresh : Transaction ι := ⟨fun _ => none, [], []⟩

/-- The transaction with a counter locked. -/
def lock (t : Transaction ι) (k : String) : Transaction ι := { t with locks := k :: t.locks }

/-- The transaction with a counter written. -/
def write (t : Transaction ι) (k : String) (n : Int) : Transaction ι :=
  { t.lock k with counters := update t.counters k (some n) }

theorem write_counters (t : Transaction ι) (k : String) (n : Int) (l : String) :
    (t.write k n).counters l = if l = k then some n else t.counters l :=
  Function.update_apply ..

/-- The transaction with a row inserted. -/
def post (t : Transaction ι) (p : Posting ι) : Transaction ι :=
  { t with postings := t.postings ++ [p] }

end Transaction

/-- **A server**: the committed counters, the committed rows in the order in which they were
committed, and the open transaction of each participant. -/
structure Server (ι : Type) where
  counters : String → Option Int
  postings : List (Posting ι)
  transactions : ι → Option (Transaction ι)

namespace Server

/-- The server with empty tables. -/
def empty : Server ι := ⟨fun _ => none, [], fun _ => none⟩

/-- The value of a counter that a transaction sees. -/
def value? (s : Server ι) (t : Transaction ι) (k : String) : Option Int :=
  (t.counters k).or (s.counters k)

/-- **No other transaction** keeps the counter to itself. -/
def Free (s : Server ι) (who : ι) (k : String) : Prop :=
  ∀ other t, s.transactions other = some t → k ∈ t.locks → other = who

/-- **Some open transactions are lost.** -/
structure Loses (s s' : Server ι) : Prop where
  counters : s'.counters = s.counters
  postings : s'.postings = s.postings
  transactions : ∀ who t, s'.transactions who = some t → s.transactions who = some t

variable [DecidableEq ι]

/-- The server with the transaction of a participant. -/
def set (s : Server ι) (who : ι) (t : Transaction ι) : Server ι :=
  { s with transactions := update s.transactions who (some t) }

/-- The server without the transaction of a participant. -/
def drop (s : Server ι) (who : ι) : Server ι :=
  { s with transactions := update s.transactions who none }

/-- The server with the transaction of a participant committed. -/
def commit (s : Server ι) (who : ι) (t : Transaction ι) : Server ι where
  counters := s.value? t
  postings := s.postings ++ t.postings
  transactions := update s.transactions who none

/-! ### Answers -/

/-- **A reply to a statement.** A fault may come before the effect, after it, or with the
transaction gone. Only where keys clash is it that a key is not unique. -/
def Reply {α : Type} (who : ι) (clash : Prop) (effect : α → Server ι → Prop) (s : Server ι) :
    Except Fault α → Server ι → Prop
  | .ok a, s' => effect a s'
  | .error fault, s' =>
    (fault.failure.isNotUnique → clash) ∧
      (s' = s ∨ s' = s.drop who ∨ ∃ a, effect a s')

/-- A counter is made, unless there is one. -/
def AddsCounter (s : Server ι) (who : ι) (k : String) (s' : Server ι) : Prop :=
  ∃ t, s.transactions who = some t ∧
    ((s.value? t k).isSome ∧ s' = s ∨
      s.value? t k = none ∧ s.Free who k ∧ s' = s.set who (t.write k 0))

/-- A counter is read and locked, if there is one. -/
def LocksCounter (s : Server ι) (who : ι) (k : String) (row : Option CounterRow)
    (s' : Server ι) : Prop :=
  ∃ t, s.transactions who = some t ∧
    (s.value? t k = none ∧ row = none ∧ s' = s ∨
      ∃ n, s.value? t k = some n ∧ s.Free who k ∧ row = some (some n) ∧
        s' = s.set who (t.lock k))

/-- A counter is written, if there is one. -/
def SetsCounter (s : Server ι) (who : ι) (k : String) (n : Int) (s' : Server ι) : Prop :=
  ∃ t, s.transactions who = some t ∧
    (s.value? t k = none ∧ s' = s ∨
      (s.value? t k).isSome ∧ s.Free who k ∧ s' = s.set who (t.write k n))

/-- The rows that decide whether keys clash: the committed ones and the transaction's own. -/
def Decides (s : Server ι) (who : ι) (p : Posting ι) : Prop :=
  ∃ t, s.transactions who = some t ∧ (p ∈ s.postings ∨ p ∈ t.postings)

/-- A row is inserted: no row stands against it, of whatever transaction. -/
def Posts (s : Server ι) (who : ι) (event : AcceptedEvent) (n : Int) (row : Option MessageRow)
    (s' : Server ι) : Prop :=
  ∃ t id createdAt, s.transactions who = some t ∧
    (∀ p ∈ s.postings, ¬p.Clashes event n) ∧
    (∀ other t', s.transactions other = some t' → ∀ p ∈ t'.postings, ¬p.Clashes event n) ∧
    row = some (.ofMessage (Posting.message ⟨who, event, n, id, createdAt⟩)) ∧
    s' = s.set who (t.post ⟨who, event, n, id, createdAt⟩)

/-- The row of a message that is looked up. -/
def found (s : Server ι) (p : Posting ι → Bool) : Option MessageRow :=
  (s.postings.find? p).map fun p => .ofMessage p.message

/-- **What a server that has lost no transaction may answer** to a statement. -/
def Responds (who : ι) (q : Statement) (s : Server ι) (a : api.Answer q) (s' : Server ι) :
    Prop :=
  match q, a with
  | .begin, a => Reply who False (fun _ s' => s' = s.set who .fresh) s a s'
  | .commit, a =>
    Reply who False (fun _ s' => ∃ t, s.transactions who = some t ∧ s' = s.commit who t) s a s'
  | .rollback, _ => s' = s ∨ s' = s.drop who
  | .findByEventId id, a =>
    Reply who False (fun row s' => row = s.found (·.event.eventId == id) ∧ s' = s) s a s'
  | .findByClientMsgId id, a =>
    Reply who False (fun row s' => row = s.found (·.event.clientMsgId == some id) ∧ s' = s)
      s a s'
  | .readCounter k, a =>
    Reply who False (fun row s' => row = (s.counters k).map some ∧ s' = s) s a s'
  | .addCounter k, a => Reply who False (fun _ s' => s.AddsCounter who k s') s a s'
  | .lockCounter k, a => Reply who False (fun row s' => s.LocksCounter who k row s') s a s'
  | .setCounter k n, a => Reply who False (fun _ s' => s.SetsCounter who k n s') s a s'
  | .insertMessage event n, a =>
    Reply who (∃ p, s.Decides who p ∧ p.Clashes event n)
      (fun row s' => s.Posts who event n row s') s a s'

/-- **What a server may answer** to a statement: some transactions may be lost before. -/
def Answers (who : ι) (q : Statement) (s : Server ι) (a : api.Answer q) (s' : Server ι) :
    Prop :=
  ∃ s₀, s.Loses s₀ ∧ Responds who q s₀ a s'

end Server

/-! ### Replays -/

/-- **Replaying rows** in a store in memory, one insert after the other, each of which is taken
under the row's own number. -/
inductive Replays : List (Posting ι) → Memory → Prop where
  | empty : Replays [] .empty
  | insert {l : List (Posting ι)} {m m' : Memory} {p : Posting ι} {id : Int}
      (before : Replays l m) (taken : m.insert p.event = (.ok (messageOf p.event id p.seqNo), m')) :
      Replays (l ++ [p]) m'

/-- The number of rows of a conversation. -/
def count (k : String) (l : List (Posting ι)) : Nat := l.countP (·.event.conversationId == k)

/-- What of a message decides whether a store takes another one. -/
def face (m : Message) : String × Option String × String × Int :=
  (m.eventId, m.clientMsgId, m.conversationId, m.seqNo)

theorem face_eq_iff {a b : Message} :
    face a = face b ↔ a.eventId = b.eventId ∧ a.clientMsgId = b.clientMsgId ∧
      a.conversationId = b.conversationId ∧ a.seqNo = b.seqNo := by
  simp [face]

@[simp] theorem count_append (k : String) (l l' : List (Posting ι)) :
    count k (l ++ l') = count k l + count k l' :=
  List.countP_append ..

theorem count_singleton (k : String) (p : Posting ι) :
    count k [p] = if p.event.conversationId = k then 1 else 0 := by
  simp [count, List.countP_singleton]

namespace Replays

variable {l : List (Posting ι)} {m : Memory}

/-- **The ledger of a replay** lists messages with the faces of the rows. -/
theorem records (h : Replays l m) :
    ∃ k : List Message, m.Records k ∧ k.map face = l.map fun p => face p.message := by
  induction h with
  | empty => exact ⟨[], Memory.records_empty, rfl⟩
  | @insert l m m' p id before taken ih =>
    obtain ⟨k, records, faces⟩ := ih
    rcases records.insert_cases p.event with ⟨_, _, _, _, eq⟩ | ⟨free, eq⟩
    · cases eq.symm.trans taken
    · obtain ⟨ok, rfl⟩ := Prod.mk.inj (eq.symm.trans taken)
      have same : face (entry k p.event) = face p.message := by
        rw [Except.ok.inj ok]
        rfl
      exact ⟨_, records.add free, by simp [faces, same]⟩

/-- The counter of a conversation is the number of its rows. -/
theorem lastSeq_eq (h : Replays l m) (k : String) : m.lastSeq k = count k l := by
  obtain ⟨ledger, records, faces⟩ := h.records
  -- a face tells the conversation, so that ledger and rows count alike
  have counted := congrArg (List.countP fun x => x.2.2.1 == k) faces
  rw [List.countP_map, List.countP_map] at counted
  rw [records.lastSeq_eq, ofConversation, ← List.countP_eq_length_filter]
  exact congrArg _ counted

/-- A row is numbered within the number of rows of its conversation. -/
theorem seqNo_le (h : Replays l m) {p : Posting ι} (hp : p ∈ l) :
    p.seqNo ≤ count p.event.conversationId l := by
  rw [← h.lastSeq_eq]
  obtain ⟨ledger, records, faces⟩ := h.records
  have mem : face p.message ∈ ledger.map face := faces ▸ List.mem_map.2 ⟨p, hp, rfl⟩
  obtain ⟨x, hx, same⟩ := List.mem_map.1 mem
  obtain ⟨_, _, conversation, number⟩ := face_eq_iff.1 same
  have le := records.ledger.seqNo_le hx
  rw [conversation, number, ← records.lastSeq_eq] at le
  exact le

/-- **The numbers of a conversation** are `1, 2, …` in the order of the rows. -/
theorem seqNos (h : Replays l m) (k : String) :
    (l.filter (·.event.conversationId == k)).map (·.seqNo) =
      (List.range (count k l)).map fun n : Nat => (n : Int) + 1 := by
  obtain ⟨ledger, records, faces⟩ := h.records
  have numbers := congrArg
    (fun faces => (faces.filter fun x => x.2.2.1 == k).map fun x => x.2.2.2) faces
  simp only [List.filter_map, List.map_map] at numbers
  have length : (ofConversation k ledger).length = count k l := by
    have counter := records.lastSeq_eq k
    rw [h.lastSeq_eq] at counter
    exact_mod_cast counter.symm
  rw [← length, ← records.ledger.seqNos]
  exact numbers.symm

/-- **One row more** is replayed if no key stands against it, and it has the next number. -/
theorem append (h : Replays l m) {p : Posting ι} (free : ∀ x ∈ l, ¬x.message.SharesKey p.event)
    (next : p.seqNo = count p.event.conversationId l + 1) : ∃ m', Replays (l ++ [p]) m' := by
  obtain ⟨ledger, records, faces⟩ := h.records
  rcases records.insert_cases p.event with ⟨_, x, hx, shares, _⟩ | ⟨_, eq⟩
  · have mem : face x ∈ l.map fun p => face p.message := faces ▸ List.mem_map_of_mem hx
    obtain ⟨y, hy, same⟩ := List.mem_map.1 mem
    obtain ⟨event, client, _, _⟩ := face_eq_iff.1 same
    refine absurd ?_ (free y hy)
    rcases shares with shared | ⟨id, hid, shared⟩
    · exact .inl (event.trans shared)
    · exact .inr ⟨id, hid, client.trans shared⟩
  · have number : p.seqNo = (ofConversation p.event.conversationId ledger).length + 1 := by
      rw [next, ← h.lastSeq_eq, records.lastSeq_eq]
    exact ⟨_, .insert h (by rw [eq, number]; rfl)⟩

end Replays

/-! ### The invariant of a server -/

namespace Server

/-- **A row that waits for its commit** is the next one of its conversation, the counter of
which its transaction keeps to itself, and the first one of its participant; no committed row
stands against it. -/
structure Pending (event : ι → AcceptedEvent) (s : Server ι) (who : ι) (t : Transaction ι)
    (p : Posting ι) : Prop where
  mine : p.who = who
  owned : p.event = event who
  locked : p.event.conversationId ∈ t.locks
  next : p.seqNo = count p.event.conversationId s.postings + 1
  free : ∀ x ∈ s.postings, ¬x.Clashes p.event p.seqNo
  first : ∀ x ∈ s.postings, x.who ≠ who

/-- **The invariant of a server** whose participants insert one event each. -/
structure Sound (event : ι → AcceptedEvent) (s : Server ι) : Prop where
  replays : ∃ m, Replays s.postings m
  counted : ∀ k, (s.counters k).getD 0 = count k s.postings
  owned : ∀ p ∈ s.postings, p.event = event p.who
  once : (s.postings.map (·.who)).Nodup
  exclusive : ∀ i t, s.transactions i = some t → ∀ k ∈ t.locks, s.Free i k
  written : ∀ i t, s.transactions i = some t → ∀ k, t.counters k ≠ none → k ∈ t.locks
  pending : ∀ i t, s.transactions i = some t → ∀ p ∈ t.postings, s.Pending event i t p
  apart : ∀ i t, s.transactions i = some t → ∀ j t', s.transactions j = some t' → i ≠ j →
    ∀ p ∈ t.postings, ∀ x ∈ t'.postings, ¬x.Clashes p.event p.seqNo

/-- **Undisturbed**: a participant's transaction was lost at worst, the counters that it keeps
to itself have not moved, and rows were only added, none of them the participant's. -/
structure Undisturbed (who : ι) (s s' : Server ι) : Prop where
  own : ∀ t, s'.transactions who = some t →
    s.transactions who = some t ∧ ∀ k ∈ t.locks, s'.counters k = s.counters k
  grown : s.postings <+: s'.postings
  others : ∀ p ∈ s'.postings, p.who = who → p ∈ s.postings

theorem Undisturbed.refl (who : ι) (s : Server ι) : Undisturbed who s s :=
  ⟨fun _ open_ => ⟨open_, fun _ _ => rfl⟩, List.prefix_rfl, fun _ mem _ => mem⟩

theorem Undisturbed.trans {who : ι} {s s' s'' : Server ι} (h : Undisturbed who s s')
    (h' : Undisturbed who s' s'') : Undisturbed who s s'' where
  own t open_ := by
    obtain ⟨between, same'⟩ := h'.own t open_
    obtain ⟨before, same⟩ := h.own t between
    exact ⟨before, fun k hk => (same' k hk).trans (same k hk)⟩
  grown := h.grown.trans h'.grown
  others p mem own := h.others p (h'.others p mem own) own

theorem Loses.refl (s : Server ι) : s.Loses s := ⟨rfl, rfl, fun _ _ => id⟩

theorem Loses.trans {s s' s'' : Server ι} (h : s.Loses s') (h' : s'.Loses s'') :
    s.Loses s'' where
  counters := h'.counters.trans h.counters
  postings := h'.postings.trans h.postings
  transactions who t open_ := h.transactions who t (h'.transactions who t open_)

/-- To lose transactions disturbs nobody. -/
theorem Loses.undisturbed {s s' : Server ι} (h : s.Loses s') (who : ι) :
    Undisturbed who s s' where
  own t open_ := ⟨h.transactions who t open_, fun _ _ => by rw [h.counters]⟩
  grown := h.postings ▸ List.prefix_rfl
  others _ mem _ := h.postings ▸ mem

variable {event : ι → AcceptedEvent} {s s' : Server ι} {i : ι} {t t' : Transaction ι}

/-- What waits for its commit goes on doing so while no row is added. -/
theorem Pending.of_eq {p : Posting ι} (h : s.Pending event i t p)
    (same : s'.postings = s.postings) (more : t.locks ⊆ t'.locks) : s'.Pending event i t' p :=
  ⟨h.mine, h.owned, more h.locked, same ▸ h.next, same ▸ h.free, same ▸ h.first⟩

theorem sound_empty (event : ι → AcceptedEvent) : (empty : Server ι).Sound event where
  replays := ⟨_, .empty⟩
  counted := by simp [empty, count]
  owned := by simp [empty]
  once := by simp [empty]
  exclusive := by simp [empty]
  written := by simp [empty]
  pending := by simp [empty]
  apart := by simp [empty]

/-- **A server that lost transactions** is sound. -/
theorem Sound.loses (h : s.Sound event) (loses : s.Loses s') : s'.Sound event where
  replays := loses.postings ▸ h.replays
  counted := by rw [loses.counters, loses.postings]; exact h.counted
  owned := loses.postings ▸ h.owned
  once := loses.postings ▸ h.once
  exclusive i t open_ k hk j t' open' hk' :=
    h.exclusive i t (loses.transactions i t open_) k hk j t' (loses.transactions j t' open') hk'
  written i t open_ := h.written i t (loses.transactions i t open_)
  pending i t open_ p hp :=
    (h.pending i t (loses.transactions i t open_) p hp).of_eq loses.postings fun _ => id
  apart i t open_ j t' open' :=
    h.apart i t (loses.transactions i t open_) j t' (loses.transactions j t' open')

variable [DecidableEq ι]

theorem drop_loses (s : Server ι) (i : ι) : s.Loses (s.drop i) where
  counters := rfl
  postings := rfl
  transactions j t open_ := by
    rcases eq_or_ne j i with rfl | ne
    · simp [drop] at open_
    · simpa [drop, ne] using open_

/-- To write in a transaction disturbs no other participant. -/
theorem set_undisturbed (s : Server ι) (t : Transaction ι) {other : ι} (ne : other ≠ i) :
    Undisturbed other s (s.set i t) where
  own t' open_ := ⟨by simpa [set, ne] using open_, fun _ _ => rfl⟩
  grown := List.prefix_rfl
  others _ mem _ := mem

/-- **A transaction that writes** keeps the server sound, if it takes counters only that no
other keeps, and the rows that it inserted are as they should be. -/
theorem Sound.set (h : s.Sound event) (free : ∀ k ∈ t.locks, s.Free i k)
    (written : ∀ k, t.counters k ≠ none → k ∈ t.locks)
    (pending : ∀ p ∈ t.postings, s.Pending event i t p)
    (apart : ∀ p ∈ t.postings, ∀ j t', s.transactions j = some t' → i ≠ j →
      ∀ x ∈ t'.postings, ¬x.Clashes p.event p.seqNo ∧ ¬p.Clashes x.event x.seqNo) :
    (s.set i t).Sound event where
  replays := h.replays
  counted := h.counted
  owned := h.owned
  once := h.once
  exclusive j t' open_ k hk l t'' open' hk' := by
    -- of the two transactions both, one or none may be the one that writes
    simp only [Server.set, Function.update_apply] at open_ open'
    split at open_ <;> split at open' <;> subst_vars
    · rfl
    · cases open_
      exact free k hk l t'' open' hk'
    · cases open'
      exact (free k hk' j t' open_ hk).symm
    · exact h.exclusive j t' open_ k hk l t'' open' hk'
  written j t' open_ := by
    simp only [Server.set, Function.update_apply] at open_
    split at open_
    · cases open_
      exact written
    · exact h.written j t' open_
  pending j t' open_ p hp := by
    simp only [Server.set, Function.update_apply] at open_
    split at open_
    · subst_vars
      cases open_
      exact (pending p hp).of_eq rfl fun _ => id
    · exact (h.pending j t' open_ p hp).of_eq rfl fun _ => id
  apart j t' open_ l t'' open' ne p hp x hx := by
    simp only [Server.set, Function.update_apply] at open_ open'
    split at open_ <;> split at open' <;> subst_vars
    · exact absurd rfl ne
    · cases open_
      exact (apart p hp l t'' open' ne x hx).1
    · cases open'
      exact (apart x hx j t' open_ ne.symm p hp).2
    · exact h.apart j t' open_ l t'' open' ne p hp x hx

/-- A transaction that takes a counter, and inserts nothing, keeps the server sound. -/
theorem Sound.keep (h : s.Sound event) (open_ : s.transactions i = some t) {k : String}
    (free : s.Free i k) (postings : t'.postings = t.postings) (locks : t'.locks = k :: t.locks)
    (written : ∀ l, t'.counters l ≠ none → l = k ∨ t.counters l ≠ none) :
    (s.set i t').Sound event := by
  refine h.set (fun l hl => ?_) (fun l wrote => ?_) (fun p hp => ?_)
    fun p hp j u open' ne x hx => ?_
  · rw [locks, List.mem_cons] at hl
    rcases hl with rfl | hl
    · exact free
    · exact h.exclusive i t open_ l hl
  · rw [locks, List.mem_cons]
    exact (written l wrote).imp_right (h.written i t open_ l)
  · rw [postings] at hp
    exact (h.pending i t open_ p hp).of_eq rfl (locks ▸ List.subset_cons_self ..)
  · rw [postings] at hp
    exact ⟨h.apart i t open_ j u open' ne p hp x hx,
      h.apart j u open' i t open_ ne.symm x hx p hp⟩

theorem Sound.lock (h : s.Sound event) (open_ : s.transactions i = some t) {k : String}
    (free : s.Free i k) : (s.set i (t.lock k)).Sound event :=
  h.keep open_ free rfl rfl fun _ => .inr

theorem Sound.write (h : s.Sound event) (open_ : s.transactions i = some t) {k : String}
    (free : s.Free i k) (n : Int) : (s.set i (t.write k n)).Sound event := by
  refine h.keep open_ free rfl rfl fun l wrote => or_iff_not_imp_left.2 fun ne => ?_
  rwa [Transaction.write_counters, if_neg ne] at wrote

/-- A transaction that inserts its row under the next number of a counter that it keeps, and
nothing else, keeps the server sound. -/
theorem Sound.post (h : s.Sound event) (open_ : s.transactions i = some t)
    (nothing : t.postings = []) {p : Posting ι} (waiting : s.Pending event i t p)
    (free : ∀ other u, s.transactions other = some u →
      ∀ x ∈ u.postings, ¬x.Clashes p.event p.seqNo) : (s.set i (t.post p)).Sound event := by
  have only : ∀ x ∈ (t.post p).postings, x = p := by simp [Transaction.post, nothing]
  refine h.set (h.exclusive i t open_) (h.written i t open_) (fun x hx => ?_)
    fun x hx j u open' _ y hy => ?_
  · obtain rfl := only x hx
    exact waiting.of_eq rfl fun _ => id
  · obtain rfl := only x hx
    exact ⟨free j u open' y hy, fun clash => free j u open' y hy clash.symm⟩

/-- To commit disturbs no other participant: what was written was kept from it. -/
theorem Sound.commit_undisturbed (h : s.Sound event) (open_ : s.transactions i = some t)
    {other : ι} (ne : other ≠ i) : Undisturbed other s (s.commit i t) where
  own t' open' := by
    have before : s.transactions other = some t' := by
      simpa [Server.commit, ne] using open'
    refine ⟨before, fun k hk => ?_⟩
    -- a counter that moves is written, hence locked, and no other keeps it
    have unwritten : t.counters k = none := by
      by_contra wrote
      exact ne.symm (h.exclusive other t' before k hk i t open_ (h.written i t open_ k wrote))
    simp [Server.commit, value?, unwritten]
  grown := List.prefix_append ..
  others p mem own := by
    refine (List.mem_append.1 mem).resolve_right fun mem => ne ?_
    rw [← own, (h.pending i t open_ p mem).mine]

/-- **A commit** of one row and its number keeps the server sound. -/
theorem Sound.commit (h : s.Sound event) (open_ : s.transactions i = some t) {p : Posting ι}
    (only : t.postings = [p])
    (wrote : ∀ k, t.counters k = if k = p.event.conversationId then some p.seqNo else none) :
    (s.commit i t).Sound event := by
  have waiting := h.pending i t open_ p (by simp [only])
  have still : ∀ j t', (s.commit i t).transactions j = some t' →
      j ≠ i ∧ s.transactions j = some t' := fun j t' open' => by
    rcases eq_or_ne j i with rfl | ne
    · simp [Server.commit] at open'
    · exact ⟨ne, by simpa [Server.commit, ne] using open'⟩
  refine ⟨?replays, fun k => ?counted, ?owned, ?once, ?exclusive, ?written, ?pending, ?apart⟩
  case replays =>
    obtain ⟨m, replays⟩ := h.replays
    rw [Server.commit, only]
    exact replays.append (fun x hx shares => waiting.free x hx (.inl shares)) waiting.next
  case counted =>
    have counted := h.counted k
    simp only [Server.commit, value?, wrote, only, count_append, count_singleton]
    by_cases same : k = p.event.conversationId
    · subst same
      simp [waiting.next]
    · simpa [same, Ne.symm same] using counted
  case owned =>
    intro x hx
    rcases List.mem_append.1 hx with hx | hx
    · exact h.owned x hx
    · rw [only, List.mem_singleton] at hx
      rw [hx, waiting.owned, waiting.mine]
  case once =>
    rw [Server.commit, only, List.map_append, List.nodup_append]
    refine ⟨h.once, List.nodup_singleton _, fun a old b new same => ?_⟩
    obtain ⟨x, hx, rfl⟩ := List.mem_map.1 old
    obtain rfl : b = p.who := by simpa using new
    exact waiting.first x hx (same.trans waiting.mine)
  case exclusive =>
    intro j t' open' k hk l t'' open'' hk'
    exact h.exclusive j t' (still j t' open').2 k hk l t'' (still l t'' open'').2 hk'
  case written =>
    intro j t' open'
    exact h.written j t' (still j t' open').2
  case pending =>
    intro j t' open' x hx
    obtain ⟨ne, before⟩ := still j t' open'
    have old := h.pending j t' before x hx
    -- two rows that wait for their commits are of different conversations
    have elsewhere : p.event.conversationId ≠ x.event.conversationId := fun same =>
      ne (h.exclusive i t open_ _ waiting.locked j t' before (same ▸ old.locked))
    refine ⟨old.mine, old.owned, old.locked, ?_, fun y hy => ?_, fun y hy => ?_⟩
    · simp [Server.commit, only, count_singleton, elsewhere, old.next]
    · rcases List.mem_append.1 hy with hy | hy
      · exact old.free y hy
      · exact h.apart j t' before i t open_ ne x hx y hy
    · rcases List.mem_append.1 hy with hy | hy
      · exact old.first y hy
      · rw [(h.pending i t open_ y hy).mine]
        exact ne.symm
  case apart =>
    intro j t' open' l t'' open''
    exact h.apart j t' (still j t' open').2 l t'' (still l t'' open'').2

end Server

end MessageIntake.Store.Sql
