import Mathlib.Data.List.Nodup
import Mathlib.Data.List.Pairwise
import MessageIntake.Store.Memory
/-!
# The ledger of a store

A `Ledger` is the plain list of the messages that a store has taken, in the order in which
it took them: no two of them share a unique key, and each is numbered after those of its
conversation before it. `Memory.Records m l` says that the store in memory `m` holds just
what the ledger `l` lists.

Main statements: an insert into a store that records a ledger either finds a key taken and
changes nothing, or appends one entry to the ledger (`Memory.Records.insert_cases`); the
store's answers are read off the ledger (`findByEventId_eq_some_iff`,
`findByClientMsgId_eq_some_iff`, `lastSeq_eq`, `conversation_eq`); and the numbers of a
conversation are `1, 2, …` without a gap (`Ledger.seqNos`).
-/

namespace MessageIntake

/-- **A message shares a key with an event**: its `eventId`, or a `clientMsgId` that both
have. -/
def Message.SharesKey (m : Message) (event : AcceptedEvent) : Prop :=
  m.eventId = event.eventId ∨ ∃ id, event.clientMsgId = some id ∧ m.clientMsgId = some id

/-- **Two messages stand apart** if they share no key. -/
def Message.Apart (a b : Message) : Prop :=
  a.eventId ≠ b.eventId ∧ ∀ id, a.clientMsgId = some id → b.clientMsgId ≠ some id

instance : Std.Symm Message.Apart :=
  ⟨fun _ _ h => ⟨h.1.symm, fun id hb ha => h.2 id ha hb⟩⟩

namespace Store

/-! ### Ledgers -/

/-- The messages of a conversation in a ledger. -/
def ofConversation (id : String) (l : List Message) : List Message :=
  l.filter (·.conversationId == id)

/-- **The entry of an event** carries what the event does. It is numbered after all messages, and in
its conversation, is as old as the event, and was neither read nor deleted. -/
def entry (l : List Message) (event : AcceptedEvent) : Message where
  id := l.length + 1
  eventId := event.eventId
  clientMsgId := event.clientMsgId
  conversationId := event.conversationId
  senderId := event.senderId
  recipientId := event.recipientId
  content := event.content
  attachmentUrl := event.attachmentUrl
  seqNo := (ofConversation event.conversationId l).length + 1
  createdAt := event.createdAt
  readAt := none
  deletedAt := none

/-- An entry stands apart from the messages that share no key with its event. -/
theorem apart_entry {l : List Message} {m : Message} {event : AcceptedEvent}
    (free : ¬m.SharesKey event) : m.Apart (entry l event) :=
  ⟨fun same => free (.inl same), fun c hm he => free (.inr ⟨c, he, hm⟩)⟩

/-- **A ledger**: entries of events with keys that were free. -/
inductive Ledger : List Message → Prop where
  | empty : Ledger []
  | append {l : List Message} {event : AcceptedEvent} (before : Ledger l)
      (free : ∀ m ∈ l, ¬m.SharesKey event) : Ledger (l ++ [entry l event])

@[simp] theorem ofConversation_append (id : String) (l k : List Message) :
    ofConversation id (l ++ k) = ofConversation id l ++ ofConversation id k :=
  List.filter_append ..

theorem mem_ofConversation {id : String} {l : List Message} {m : Message} :
    m ∈ ofConversation id l ↔ m ∈ l ∧ m.conversationId = id := by
  simp [ofConversation]

/-- An entry is listed in its own conversation only. -/
theorem ofConversation_entry (id : String) (l : List Message) (event : AcceptedEvent) :
    ofConversation id [entry l event] =
      if event.conversationId = id then [entry l event] else [] := by
  simp [ofConversation, List.filter_cons, entry]

namespace Ledger

variable {l : List Message}

/-- No two messages of a ledger share a key. -/
theorem pairwise_apart (h : Ledger l) : l.Pairwise Message.Apart := by
  induction h with
  | empty => exact .nil
  | append before free ih =>
    refine List.pairwise_append.2 ⟨ih, List.pairwise_singleton .., fun a ha b hb => ?_⟩
    rw [List.mem_singleton.1 hb]
    exact apart_entry (free a ha)

/-- Two messages of a ledger that do not stand apart are one. -/
theorem eq_of_not_apart (h : Ledger l) {a b : Message} (ha : a ∈ l) (hb : b ∈ l)
    (same : ¬a.Apart b) : a = b := by
  by_contra ne
  exact same (h.pairwise_apart.forall ha hb ne)

theorem eq_of_eventId (h : Ledger l) {a b : Message} (ha : a ∈ l) (hb : b ∈ l)
    (same : a.eventId = b.eventId) : a = b :=
  h.eq_of_not_apart ha hb fun apart => apart.1 same

theorem eq_of_clientMsgId (h : Ledger l) {a b : Message} (ha : a ∈ l) (hb : b ∈ l)
    {id : String} (ida : a.clientMsgId = some id) (idb : b.clientMsgId = some id) : a = b :=
  h.eq_of_not_apart ha hb fun apart => apart.2 id ida idb

theorem nodup (h : Ledger l) : l.Nodup :=
  h.pairwise_apart.imp fun apart same => apart.1 (congrArg _ same)

/-- **The numbers of a conversation** are `1, 2, …` in the order of the ledger. -/
theorem seqNos (h : Ledger l) (id : String) :
    (ofConversation id l).map (·.seqNo) =
      (List.range (ofConversation id l).length).map fun n : Nat => (n : Int) + 1 := by
  induction h with
  | empty => rfl
  | @append l event before free ih =>
    rw [ofConversation_append, ofConversation_entry]
    split
    · next same =>
      subst same
      simp [ih, List.range_succ, entry]
    · simpa using ih

/-- A number of a conversation is at most the number of its messages. -/
theorem seqNo_le (h : Ledger l) {m : Message} (hm : m ∈ l) :
    m.seqNo ≤ (ofConversation m.conversationId l).length := by
  have mem : m.seqNo ∈ (ofConversation m.conversationId l).map (·.seqNo) :=
    List.mem_map_of_mem (mem_ofConversation.2 ⟨hm, rfl⟩)
  rw [h.seqNos, List.mem_map] at mem
  obtain ⟨n, hn, eq⟩ := mem
  have := List.mem_range.1 hn
  omega

/-- Within a conversation, messages stand in the order of their numbers. -/
theorem pairwise_seqNo (h : Ledger l) (id : String) :
    (ofConversation id l).Pairwise fun a b => a.seqNo < b.seqNo := by
  have sorted : ((ofConversation id l).map (·.seqNo)).Pairwise (· < ·) := by
    rw [h.seqNos, List.pairwise_map]
    exact List.pairwise_lt_range.imp fun lt => by omega
  exact List.pairwise_map.1 sorted

end Ledger

/-! ### The store in memory -/

namespace Memory

/-- **The store holds what the ledger lists.** -/
structure Records (m : Memory) (l : List Message) : Prop where
  ledger : Ledger l
  lastId : m.lastId = l.length
  message : ∀ id x, m.messages[id]? = some x ↔ x ∈ l ∧ x.eventId = id
  client : ∀ id eventId, m.clientMsgIds[id]? = some eventId ↔
    ∃ x ∈ l, x.clientMsgId = some id ∧ x.eventId = eventId
  counter : ∀ id, m.lastSeq id = (ofConversation id l).length
  listed : m.rows.Perm l

theorem records_empty : empty.Records [] where
  ledger := .empty
  lastId := rfl
  message := by simp [empty]
  client := by simp [empty]
  counter := by simp [empty, lastSeq, ofConversation]
  listed := by simp [empty, rows]

namespace Records

variable {m : Memory} {l : List Message}

/-- Looking up an `eventId`. -/
theorem findByEventId_eq_some_iff (h : m.Records l) {id : String} {x : Message} :
    m.findByEventId id = some x ↔ x ∈ l ∧ x.eventId = id :=
  h.message id x

theorem findByEventId_eq_none_iff (h : m.Records l) {id : String} :
    m.findByEventId id = none ↔ ∀ x ∈ l, x.eventId ≠ id := by
  simp only [Option.eq_none_iff_forall_ne_some, ne_eq, h.findByEventId_eq_some_iff, not_and]

/-- Looking up a `clientMsgId`. -/
theorem findByClientMsgId_eq_some_iff (h : m.Records l) {id : String} {x : Message} :
    m.findByClientMsgId id = some x ↔ x ∈ l ∧ x.clientMsgId = some id := by
  simp only [findByClientMsgId, Option.bind_eq_some_iff, h.client, h.message]
  constructor
  · rintro ⟨_, ⟨y, hy, idy, rfl⟩, hx, same⟩
    exact ⟨hx, h.ledger.eq_of_eventId hx hy same ▸ idy⟩
  · rintro ⟨hx, idx⟩
    exact ⟨x.eventId, ⟨x, hx, idx, rfl⟩, hx, rfl⟩

theorem findByClientMsgId_eq_none_iff (h : m.Records l) {id : String} :
    m.findByClientMsgId id = none ↔ ∀ x ∈ l, x.clientMsgId ≠ some id := by
  simp only [Option.eq_none_iff_forall_ne_some, ne_eq, h.findByClientMsgId_eq_some_iff, not_and]

theorem mem_rows (h : m.Records l) {x : Message} : x ∈ m.rows ↔ x ∈ l := h.listed.mem_iff

theorem lastSeq_eq (h : m.Records l) (id : String) :
    m.lastSeq id = (ofConversation id l).length := h.counter id

/-- **The messages of a conversation** stand in the order of the ledger. -/
theorem conversation_eq (h : m.Records l) (id : String) :
    m.conversation id = ofConversation id l := by
  have listed : (m.conversation id).Perm (ofConversation id l) :=
    (List.mergeSort_perm ..).trans (h.listed.filter _)
  have numbers := h.ledger.pairwise_seqNo id
  -- within a conversation a number belongs to one message, so that sorting leaves no choice
  have antisymm : ∀ a b : Message, a ∈ m.conversation id → b ∈ ofConversation id l →
      a.seqNo ≤ b.seqNo → b.seqNo ≤ a.seqNo → a = b := fun a b ha hb ab ba =>
    List.inj_on_of_nodup_map (List.pairwise_map.2 (numbers.imp Int.ne_of_lt))
      (listed.subset ha) hb (Int.le_antisymm ab ba)
  have sorted : (m.conversation id).Pairwise fun a b => decide (a.seqNo ≤ b.seqNo) = true :=
    List.pairwise_mergeSort (fun a b c ab bc => by simp only [decide_eq_true_eq] at *; omega)
      (fun a b => by simp only [Bool.or_eq_true, decide_eq_true_eq]; omega) _
  exact List.Perm.eq_of_pairwise antisymm (sorted.imp of_decide_eq_true)
    (numbers.imp Int.le_of_lt) listed

/-- An `eventId` is taken just if the ledger lists it. -/
theorem contains_eventId_iff (h : m.Records l) {id : String} :
    m.messages.contains id = true ↔ ∃ x ∈ l, x.eventId = id := by
  simp only [Std.HashMap.contains_eq_isSome_getElem?, Option.isSome_iff_exists, h.message]

/-- So it is with a `clientMsgId`. -/
theorem contains_clientMsgId_iff (h : m.Records l) {id : String} :
    m.clientMsgIds.contains id = true ↔ ∃ x ∈ l, x.clientMsgId = some id := by
  simp only [Std.HashMap.contains_eq_isSome_getElem?, Option.isSome_iff_exists, h.client]
  exact ⟨fun ⟨_, x, hx, idx, _⟩ => ⟨x, hx, idx⟩, fun ⟨x, hx, idx⟩ => ⟨_, x, hx, idx, rfl⟩⟩

/-- A key stands against an event just if a message of the ledger shares one with it. -/
theorem conflict?_eq_none_iff (h : m.Records l) {event : AcceptedEvent} :
    m.conflict? event = none ↔ ∀ x ∈ l, ¬x.SharesKey event := by
  unfold conflict?
  cases hid : event.clientMsgId with
  | none => simp [h.contains_eventId_iff, Message.SharesKey, hid]
  | some id =>
    simp only [h.contains_eventId_iff, h.contains_clientMsgId_iff, Message.SharesKey, hid]
    split
    · next taken =>
      obtain ⟨x, hx, same⟩ := taken
      exact iff_of_false (by simp) fun free => free x hx (.inl same)
    · next free =>
      split
      · next taken =>
        obtain ⟨x, hx, idx⟩ := taken
        exact iff_of_false (by simp) fun none => none x hx (.inr ⟨id, rfl, idx⟩)
      · next free' =>
        refine iff_of_true rfl fun x hx shares => ?_
        obtain same | ⟨_, ⟨⟩, idx⟩ := shares
        · exact free ⟨x, hx, same⟩
        · exact free' ⟨x, hx, idx⟩

/-- The store after an event with free keys. -/
theorem add (h : m.Records l) {event : AcceptedEvent} (free : ∀ x ∈ l, ¬x.SharesKey event) :
    (m.add event (entry l event)).Records (l ++ [entry l event]) where
  ledger := h.ledger.append free
  lastId := by simp [Memory.add, entry]
  message id x := by
    have fresh : ∀ x ∈ l, x.eventId ≠ event.eventId := fun x hx same => free x hx (.inl same)
    simp only [Memory.add, Std.HashMap.getElem?_insert, List.mem_append, List.mem_singleton]
    by_cases same : event.eventId = id
    · subst same
      simp only [beq_self_eq_true, if_true, Option.some.injEq]
      constructor
      · rintro rfl
        exact ⟨.inr rfl, rfl⟩
      · rintro ⟨hx | rfl, same⟩
        · exact absurd same (fresh x hx)
        · rfl
    · simp only [beq_iff_eq, same, if_false, h.message]
      refine and_congr_left fun ne => (or_iff_left ?_).symm
      rintro rfl
      exact same ne
  client id eventId := by
    -- the table of client identifiers changes only for an event that has one
    have fresh : ∀ c, event.clientMsgId = some c → ∀ x ∈ l, x.clientMsgId ≠ some c :=
      fun c hc x hx same => free x hx (.inr ⟨c, hc, same⟩)
    have listed : (∃ x ∈ l ++ [entry l event], x.clientMsgId = some id ∧ x.eventId = eventId) ↔
        (∃ x ∈ l, x.clientMsgId = some id ∧ x.eventId = eventId) ∨
          event.clientMsgId = some id ∧ event.eventId = eventId := by
      simp [or_and_right, exists_or, entry]
    rw [listed, ← h.client]
    simp only [Memory.add]
    cases hc : event.clientMsgId with
    | none => simp
    | some c =>
      simp only [Std.HashMap.getElem?_insert, Option.some.injEq]
      by_cases same : c = id
      · subst same
        have none : m.clientMsgIds[c]? ≠ some eventId := fun some => by
          obtain ⟨x, hx, idx, _⟩ := (h.client c eventId).1 some
          exact fresh c hc x hx idx
        simp [none]
      · simp [same]
  counter id := by
    have := h.counter id
    simp only [lastSeq, Memory.add, ofConversation_append, ofConversation_entry] at this ⊢
    by_cases same : event.conversationId = id
    · subst same
      simp [entry]
    · simp [Std.HashMap.getD_insert, same, this]
  listed := by
    -- nothing is listed under the new key, so that the insert replaces nothing
    have absent : ∀ p ∈ m.messages.toList, p.1 ≠ event.eventId := by
      rintro ⟨id, x⟩ mem rfl
      obtain ⟨hx, same⟩ := (h.message _ x).1 (Std.HashMap.mem_toList_iff_getElem?_eq_some.1 mem)
      exact free x hx (.inl same)
    have kept : m.messages.toList.filter (fun p => !(event.eventId == p.1)) =
        m.messages.toList :=
      List.filter_eq_self.2 fun p mem => by simpa using (absent p mem).symm
    have inserted := (Std.HashMap.toList_insert_perm (m := m.messages) (k := event.eventId)
      (v := entry l event)).map Prod.snd
    simp only [decide_not, Bool.decide_eq_true, kept] at inserted
    exact inserted.trans ((h.listed.cons _).trans (List.perm_append_singleton ..).symm)

/-- **An insert** finds a key taken, and changes nothing, or appends the event's entry to the
ledger. -/
theorem insert_cases (h : m.Records l) (event : AcceptedEvent) :
    (∃ key, ∃ x ∈ l, x.SharesKey event ∧ m.insert event = (.error (.notUnique (some key)), m)) ∨
      (∀ x ∈ l, ¬x.SharesKey event) ∧
        m.insert event = (.ok (entry l event), m.add event (entry l event)) := by
  cases hc : m.conflict? event with
  | none =>
    have free := h.conflict?_eq_none_iff.1 hc
    refine .inr ⟨free, ?_⟩
    simp only [insert, hc, h.lastId, h.counter]
    rfl
  | some key =>
    have taken : ¬∀ x ∈ l, ¬x.SharesKey event := fun free => by
      simp [h.conflict?_eq_none_iff.2 free] at hc
    push Not at taken
    obtain ⟨x, hx, shares⟩ := taken
    exact .inl ⟨key, x, hx, shares, insert_of_conflict hc⟩

end Records

/-- **The first insert.** -/
theorem insert_empty (event : AcceptedEvent) :
    empty.insert event = (.ok (entry [] event), empty.add event (entry [] event)) :=
  ((records_empty.insert_cases event).resolve_left fun ⟨_, _, listed, _⟩ =>
    List.not_mem_nil listed).2

end Memory

end Store

end MessageIntake
