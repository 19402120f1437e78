import MessageIntake.Proofs.Store.Ledger
/-!
# A store in memory answers as its ledger does

A store in memory keeps its messages, an index, counters and the last identifier apart, and an
insert has to bring all of them forward together. `Ledger.perform` says what the answers would
be if there were nothing but the plain list of the messages that were taken: a look goes
through the list, an insert counts its entries and puts one at the end.

Main statement: whatever operations are performed one after the other on a store without
messages, each is answered as the list answers it (`performs_as_ledger`).
-/

namespace MessageIntake.Store

/-! ### Operations -/

/-- **What can be done with a store in memory**: asking it, listing a conversation, and counting
its messages. -/
inductive Operation where
  | ask (question : Question)
  | conversation (id : String)
  | size

/-- What an operation answers. -/
@[reducible] def Operation.Answer : Operation → Type
  | ask question => Except Failure question.Result
  | conversation _ => List Message
  | size => Nat

/-- **The answers** to operations that are performed one after the other. -/
def answers {σ : Type} (perform : σ → (o : Operation) → o.Answer × σ) :
    σ → List Operation → List (Σ o : Operation, o.Answer)
  | _, [] => []
  | s, o :: rest => ⟨o, (perform s o).1⟩ :: answers perform (perform s o).2 rest

/-- **The state** after operations that were performed one after the other. -/
def after {σ : Type} (perform : σ → (o : Operation) → o.Answer × σ) (s : σ)
    (operations : List Operation) : σ :=
  operations.foldl (fun s o => (perform s o).2) s

/-- An operation on a store in memory. -/
def Memory.perform (m : Memory) : (o : Operation) → o.Answer × Memory
  | .ask question => m.answer question
  | .conversation id => (m.conversation id, m)
  | .size => (m.size, m)

namespace Ledger

variable {l : List Message}

/-- **The key that stands against an event** in a list of messages; `eventId` is looked at
first, and an event without `clientMsgId` can only be refused for its `eventId`. -/
def conflict? (l : List Message) (event : AcceptedEvent) : Option String :=
  if ∃ x ∈ l, x.eventId = event.eventId then some "uk_messages_event_id"
  else
    match event.clientMsgId with
    | some id => if ∃ x ∈ l, x.clientMsgId = some id then some "uk_messages_client_msg_id" else none
    | none => none

/-- **An operation on a plain list of messages.** -/
def perform (l : List Message) : (o : Operation) → o.Answer × List Message
  | .ask (.findByEventId id) => (.ok (l.find? (·.eventId == id)), l)
  | .ask (.findByClientMsgId id) => (.ok (l.find? (·.clientMsgId == some id)), l)
  | .ask (.insert event) =>
    match conflict? l event with
    | some key => (.error (.notUnique (some key)), l)
    | none => (.ok (entry l event), l ++ [entry l event])
  | .ask (.lastSeq id) => (.ok ((ofConversation id l).length : Int), l)
  | .conversation id => (ofConversation id l, l)
  | .size => (l.length, l)

/-- Where a key belongs to one message only, the first message found is the only one. -/
theorem find?_eq_some_iff_of_unique {p : Message → Bool} {x : Message}
    (unique : ∀ a ∈ l, ∀ b ∈ l, p a → p b → a = b) : l.find? p = some x ↔ x ∈ l ∧ p x := by
  refine ⟨fun found => ⟨List.mem_of_find?_eq_some found, List.find?_some found⟩, ?_⟩
  rintro ⟨mem, holds⟩
  cases found : l.find? p with
  | none => exact absurd holds (List.find?_eq_none.1 found x mem)
  | some y =>
    exact congrArg some
      (unique y (List.mem_of_find?_eq_some found) x mem (List.find?_some found) holds)

/-- The identifiers of a ledger's messages are `1, 2, …` in its order. -/
theorem ids (h : Ledger l) :
    l.map (·.id) = (List.range l.length).map fun n : Nat => (n : Int) + 1 := by
  induction h with
  | empty => rfl
  | append before free ih => simp [ih, List.range_succ, entry]

end Ledger

/-! ### The refinement -/

namespace Memory.Records

variable {m : Memory} {l : List Message}

/-- Looking up an `eventId` finds what a search of the ledger finds. -/
theorem findByEventId_eq (h : m.Records l) (id : String) :
    m.findByEventId id = l.find? (·.eventId == id) := by
  have unique : ∀ a ∈ l, ∀ b ∈ l, (a.eventId == id) = true → (b.eventId == id) = true → a = b :=
    fun a ha b hb ea eb =>
      h.ledger.eq_of_eventId ha hb ((beq_iff_eq.1 ea).trans (beq_iff_eq.1 eb).symm)
  ext x
  rw [h.findByEventId_eq_some_iff, Ledger.find?_eq_some_iff_of_unique unique, beq_iff_eq]

/-- So does looking up a `clientMsgId`. -/
theorem findByClientMsgId_eq (h : m.Records l) (id : String) :
    m.findByClientMsgId id = l.find? (·.clientMsgId == some id) := by
  have unique : ∀ a ∈ l, ∀ b ∈ l, (a.clientMsgId == some id) = true →
      (b.clientMsgId == some id) = true → a = b :=
    fun a ha b hb ea eb =>
      h.ledger.eq_of_clientMsgId ha hb (beq_iff_eq.1 ea) (beq_iff_eq.1 eb)
  ext x
  rw [h.findByClientMsgId_eq_some_iff, Ledger.find?_eq_some_iff_of_unique unique, beq_iff_eq]

/-- The key that stands against an event can be read off the ledger. -/
theorem conflict?_eq (h : m.Records l) (event : AcceptedEvent) :
    m.conflict? event = Ledger.conflict? l event := by
  unfold conflict? Ledger.conflict?
  refine if_congr h.contains_eventId_iff rfl ?_
  cases event.clientMsgId with
  | none => rfl
  | some id => exact if_congr h.contains_clientMsgId_iff rfl rfl

/-- There are as many messages as entries. -/
theorem size_eq (h : m.Records l) : m.size = l.length := by
  rw [← h.listed.length_eq, rows, List.length_map, Std.HashMap.length_toList, size]

/-- **One operation** is answered as the ledger answers it, and the store goes on recording
it. -/
theorem perform (h : m.Records l) (o : Operation) :
    (m.perform o).1 = (Ledger.perform l o).1 ∧
      (m.perform o).2.Records (Ledger.perform l o).2 := by
  cases o with
  | conversation id => exact ⟨h.conversation_eq id, h⟩
  | size => exact ⟨h.size_eq, h⟩
  | ask question =>
    cases question with
    | findByEventId id => exact ⟨congrArg _ (h.findByEventId_eq id), h⟩
    | findByClientMsgId id => exact ⟨congrArg _ (h.findByClientMsgId_eq id), h⟩
    | lastSeq id => exact ⟨congrArg _ (h.lastSeq_eq id), h⟩
    | insert event =>
      have same := h.conflict?_eq event
      simp only [Memory.perform, answer, Ledger.perform]
      cases hc : Ledger.conflict? l event with
      | some key =>
        rw [insert_of_conflict (same.trans hc)]
        exact ⟨rfl, h⟩
      | none =>
        have free := h.conflict?_eq_none_iff.1 (same.trans hc)
        rcases h.insert_cases event with ⟨_, x, hx, shares, -⟩ | ⟨-, eq⟩
        · exact absurd shares (free x hx)
        · rw [eq]
          exact ⟨rfl, h.add free⟩

/-- **So are all operations** that follow. -/
theorem performs (h : m.Records l) (operations : List Operation) :
    answers Memory.perform m operations = answers Ledger.perform l operations ∧
      (after Memory.perform m operations).Records (after Ledger.perform l operations) := by
  induction operations generalizing m l with
  | nil => exact ⟨rfl, h⟩
  | cons o rest ih =>
    obtain ⟨same, records⟩ := h.perform o
    obtain ⟨answered, recorded⟩ := ih records
    refine ⟨?_, recorded⟩
    rw [answers, answers, same, answered]

end Memory.Records

/-- An operation puts at most one message at the end of a list. -/
theorem Ledger.length_perform_le (l : List Message) (o : Operation) :
    (Ledger.perform l o).2.length ≤ l.length + 1 := by
  cases o with
  | conversation | size => exact Nat.le_succ _
  | ask question =>
    cases question with
    | findByEventId | findByClientMsgId | lastSeq => exact Nat.le_succ _
    | insert event =>
      rw [perform]
      split <;> simp

theorem Ledger.length_after_le (l : List Message) (operations : List Operation) :
    (after Ledger.perform l operations).length ≤ l.length + operations.length := by
  induction operations generalizing l with
  | nil => exact Nat.le_refl _
  | cons o rest ih =>
    have one := Ledger.length_perform_le l o
    have more := ih (Ledger.perform l o).2
    rw [List.length_cons]
    exact Nat.le_trans more (by omega)

/-- **A store in memory answers as a plain list of the messages it took.** Whatever operations
are performed one after the other on a store without messages, each is answered as
`Ledger.perform` answers it. In the list no two messages share a key, so that what a look finds
is all there is to find; the messages of a conversation are numbered `1, 2, …` in its order, and
all messages are; and there are at most as many of them as there were operations, which bounds
every number that is given out. -/
theorem performs_as_ledger (operations : List Operation) :
    let l := after Ledger.perform [] operations
    answers Memory.perform .empty operations = answers Ledger.perform [] operations ∧
      l.Pairwise Message.Apart ∧
      (∀ id, (ofConversation id l).map (·.seqNo) =
        (List.range (ofConversation id l).length).map fun n : Nat => (n : Int) + 1) ∧
      l.map (·.id) = (List.range l.length).map (fun n : Nat => (n : Int) + 1) ∧
      l.length ≤ operations.length := by
  intro l
  obtain ⟨same, records⟩ := Memory.records_empty.performs operations
  have ledger : Ledger l := records.ledger
  have length : l.length ≤ operations.length := by
    simpa using Ledger.length_after_le [] operations
  exact ⟨same, ledger.pairwise_apart, ledger.seqNos, ledger.ids, length⟩

end MessageIntake.Store
