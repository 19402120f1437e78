import MessageIntake.Proofs.Dispatch.Redelivery
import MessageIntake.Proofs.Dispatch.Verdict
import MessageIntake.Proofs.Store.Answers
/-!
# The effect of a dispatch

A dispatch on a store in memory with faults that leave no trace: any question may fail, and a
look may miss what is there, but neither has an effect. Letters are recorded as they are
published, or refused.

Main statement: whatever fails and misses on its way, a dispatch adds just the row that it
acknowledges, or finds one and changes nothing, or records just one letter of the record, or does
nothing at all (`dispatch_has_one_effect`).
-/

namespace MessageIntake.Dispatch

open Dialogue (Passage passage_done_iff passage_tell_iff passage_ask_iff passage_bind_iff)
open Store (Memory Operation entry messageOf after)

/-! ### A store with faults that leave no trace -/

/-- The answer misses whatever the question looks for. -/
def Misses : (q : Store.Question) → Store.api.Answer q → Prop
  | .findByEventId _, a => a = .ok none
  | .findByClientMsgId _, a => a = .ok none
  | .insert _, _ => False
  | .lastSeq _, _ => False

/-- **A faulty store** answers as it should, or it fails or misses and stays as it is. -/
def faulty : World Store.api Memory := fun q m a m' =>
  (a, m') = m.answer q ∨ ((∃ failure, a = .error failure) ∨ Misses q a) ∧ m' = m

/-- **A dispatch on a faulty store**; all other answers are open. -/
def faultyDispatch : World api Memory
  | .store q, m, a, m' => faulty q m a m'
  | .publish .., m, _, m' => m' = m
  | .now, m, _, m' => m' = m
  | .factor, m, _, m' => m' = m

theorem faultyDispatch_storeOnly : StoreOnly faultyDispatch := by
  intro q m a m' aside h
  cases q with
  | store q => exact absurd rfl (aside q)
  | publish | now | factor => exact h

/-! ### Storing an event on a faulty store -/

variable {m m' : Memory} {l : List Message} {event : AcceptedEvent}

/-- **What storing an event comes to** on a store that records the ledger `l`. -/
inductive Stored (m : Memory) (l : List Message) (event : AcceptedEvent) :
    Except Failure Outcome → Memory → Prop where
  | failed (failure : Failure) : Stored m l event (.error failure) m
  | found {row : Message} (mem : row ∈ l) (shares : row.SharesKey event) :
      Stored m l event (.ok ⟨row, true⟩) m
  | added (free : ∀ x ∈ l, ¬x.SharesKey event) :
      Stored m l event (.ok ⟨entry l event, false⟩) (m.add event (entry l event))

/-- A look by `eventId` changes nothing, and what it finds is listed. -/
theorem look_eventId (records : m.Records l) {id : String} {a : Except Failure (Option Message)}
    (h : faulty (.findByEventId id) m a m') :
    m' = m ∧ ∀ row, a = .ok (some row) → row ∈ l ∧ row.eventId = id := by
  rcases h with eq | ⟨⟨failure, rfl⟩ | rfl, rfl⟩
  · obtain ⟨rfl, rfl⟩ := Prod.mk.inj eq
    exact ⟨rfl, fun row found => records.findByEventId_eq_some_iff.1 (Except.ok.inj found)⟩
  · exact ⟨rfl, by simp⟩
  · exact ⟨rfl, by simp⟩

/-- So it is with a look by `clientMsgId`. -/
theorem look_clientMsgId (records : m.Records l) {id : String}
    {a : Except Failure (Option Message)} (h : faulty (.findByClientMsgId id) m a m') :
    m' = m ∧ ∀ row, a = .ok (some row) → row ∈ l ∧ row.clientMsgId = some id := by
  rcases h with eq | ⟨⟨failure, rfl⟩ | rfl, rfl⟩
  · obtain ⟨rfl, rfl⟩ := Prod.mk.inj eq
    exact ⟨rfl, fun row found => records.findByClientMsgId_eq_some_iff.1 (Except.ok.inj found)⟩
  · exact ⟨rfl, by simp⟩
  · exact ⟨rfl, by simp⟩

variable {events : List (Dialogue.Event Store.api Telemetry Memory)}

/-- **Looking for an event** changes nothing, and what it finds shares a key with the event. -/
theorem of_findExisting (records : m.Records l) {found : Except Failure (Option Message)}
    (h : Passage faulty (Persistence.findExisting event) m events found m') :
    m' = m ∧ ∀ row, found = .ok (some row) → row ∈ l ∧ row.SharesKey event := by
  obtain ⟨a, mid, later, rfl, asked, rest⟩ := passage_ask_iff.1 h
  obtain ⟨rfl, listed⟩ := look_eventId records asked
  match a with
  | .error failure =>
    obtain ⟨rfl, rfl, rfl⟩ := passage_done_iff.1 rest
    exact ⟨rfl, by simp⟩
  | .ok (some x) =>
    obtain ⟨rfl, rfl, rfl⟩ := passage_done_iff.1 rest
    refine ⟨rfl, ?_⟩
    rintro row ⟨⟩
    exact ⟨(listed x rfl).1, .inl (listed x rfl).2⟩
  | .ok none =>
    cases carried : event.clientMsgId with
    | none =>
      simp only [carried] at rest
      obtain ⟨rfl, rfl, rfl⟩ := passage_done_iff.1 rest
      exact ⟨rfl, by simp⟩
    | some id =>
      simp only [carried] at rest
      obtain ⟨a, next, later, rfl, asked, ends⟩ := passage_ask_iff.1 rest
      obtain ⟨rfl, rfl, rfl⟩ := passage_done_iff.1 ends
      obtain ⟨rfl, listed⟩ := look_clientMsgId records asked
      exact ⟨rfl, fun row eq => ⟨(listed row eq).1, .inr ⟨id, carried, (listed row eq).2⟩⟩⟩

/-- **A round** adds the event, or finds it, or leaves the store as it was to what follows. -/
theorem of_round (records : m.Records l) {refused : Failure → Persistence.Talk Outcome}
    (follows : ∀ failure events r m', Passage faulty (refused failure) m events r m' →
      Stored m l event r m')
    {r : Except Failure Outcome}
    (h : Passage faulty (Persistence.round event refused) m events r m') :
    Stored m l event r m' := by
  obtain ⟨first, second, found, mid, rfl, looked, rest⟩ := passage_bind_iff.1 h
  obtain ⟨rfl, shares⟩ := of_findExisting records looked
  match found with
  | .error failure =>
    obtain ⟨rfl, rfl, rfl⟩ := passage_done_iff.1 rest
    exact .failed failure
  | .ok (some row) =>
    obtain ⟨later, rfl, noted⟩ := passage_tell_iff.1 rest
    obtain ⟨rfl, rfl, rfl⟩ := passage_done_iff.1 noted
    exact .found (shares row rfl).1 (shares row rfl).2
  | .ok none =>
    obtain ⟨a, next, later, rfl, asked, inserted⟩ := passage_ask_iff.1 rest
    rcases asked with eq | ⟨⟨failure, rfl⟩ | missed, rfl⟩
    · rcases records.insert_cases event with ⟨key, x, mem, shared, taken⟩ | ⟨free, added⟩
      · obtain ⟨rfl, rfl⟩ := Prod.mk.inj (eq.trans taken)
        exact follows _ _ _ _ inserted
      · obtain ⟨rfl, rfl⟩ := Prod.mk.inj (eq.trans added)
        obtain ⟨later, rfl, noted⟩ := passage_tell_iff.1 inserted
        obtain ⟨rfl, rfl, rfl⟩ := passage_done_iff.1 noted
        exact .added free
    · exact follows _ _ _ _ inserted
    · exact missed.elim

/-- So do the rounds that may follow. -/
theorem of_rounds (records : m.Records l) (relookups left : Nat) {r : Except Failure Outcome}
    (h : Passage faulty (Persistence.rounds event relookups left) m events r m') :
    Stored m l event r m' := by
  -- on the rounds that are left: an insert that was refused leaves the store to the next of them
  induction left generalizing relookups events r m' with
  | zero =>
    refine of_round records (fun failure events r m' h => ?_) h
    obtain ⟨rfl, rfl, rfl⟩ := passage_done_iff.1 h
    exact .failed failure
  | succ left ih =>
    refine of_round records (fun failure events r m' h => ?_) h
    split at h
    · obtain ⟨later, rfl, noted⟩ := passage_tell_iff.1 h
      exact ih _ noted
    · obtain ⟨rfl, rfl, rfl⟩ := passage_done_iff.1 h
      exact .failed failure

/-- **Storing an event** on a faulty store adds it, finds it, or fails and changes nothing. -/
theorem of_persist (records : m.Records l) {r : Except Failure Outcome}
    (h : Passage faulty (Persistence.persist event) m events r m') : Stored m l event r m' :=
  of_rounds records _ _ h

/-! ### What a dispatch has done -/

/-- **A message is of a record** if it shares a key with the event that the record carries. -/
def IsOf (record : Record) (row : Message) : Prop :=
  ∃ event receivedAt accepted, ChatEvent.ofPayload? record.payload = .ok event ∧
    event.accept receivedAt = .ok accepted ∧ row.SharesKey accepted

/-- **A letter is from a record** if it says that it comes from where the record does. -/
def IsFrom (record : Record) (letter : Letter) : Prop :=
  letter.originTopic = record.topic ∧ letter.originPartition = record.partition ∧
    letter.originOffset = record.offset

/-- **A row was added, and nothing else**: its identifier and its number in its conversation are
the next ones, and all that is under other keys and of other conversations is as it was. -/
structure Adds (m : Memory) (row : Message) (m' : Memory) : Prop where
  fresh : row ∉ m.rows
  rows : m'.rows.Perm (row :: m.rows)
  id : row.id = m.lastId + 1
  seqNo : row.seqNo = m.lastSeq row.conversationId + 1
  lastId : m'.lastId = row.id
  messages : ∀ id, m'.messages[id]? = if row.eventId = id then some row else m.messages[id]?
  clientMsgIds : ∀ id, m'.clientMsgIds[id]? =
    if row.clientMsgId = some id then some row.eventId else m.clientMsgIds[id]?
  counters : ∀ id, m'.counters[id]? =
    if row.conversationId = id then some row.seqNo else m.counters[id]?

/-- **The effect of a dispatch**: how the record is to be settled, the letters that were
recorded, and what the store has become. -/
inductive Effect (record : Record) (m : Memory) :
    Disposition → List Letter → Memory → Prop where
  | added {row : Message} {m' : Memory} (adds : Adds m row m') (isOf : IsOf record row) :
      Effect record m (.acked ⟨row, false⟩) [] m'
  | found {row : Message} (mem : row ∈ m.rows) (isOf : IsOf record row) :
      Effect record m (.acked ⟨row, true⟩) [] m
  | lettered {letter : Letter} (isFrom : IsFrom record letter) :
      Effect record m (.deadLettered letter.failureReason letter.failureClass letter.attemptCount)
        [letter] m
  | left (delay : Span) (attempt : Nat) (reason : Reason) :
      Effect record m (.retry delay attempt reason) [] m

/-- The entry of an event whose keys are free is a row that was added. -/
theorem adds_entry (records : m.Records l) (free : ∀ x ∈ l, ¬x.SharesKey event) :
    Adds m (entry l event) (m.add event (entry l event)) where
  fresh mem := free _ (records.mem_rows.1 mem) (.inl rfl)
  rows := (records.add free).listed.trans <|
    (List.perm_append_singleton ..).trans (records.listed.symm.cons _)
  id := congrArg (· + 1) records.lastId.symm
  seqNo := congrArg (· + 1) (records.lastSeq_eq _).symm
  lastId := rfl
  messages id := (Std.HashMap.getElem?_insert ..).trans (if_congr beq_iff_eq rfl rfl)
  clientMsgIds id := by
    change _ = if event.clientMsgId = some id then _ else _
    simp only [Memory.add]
    cases hc : event.clientMsgId with
    | none => simp
    | some c =>
      rw [Std.HashMap.getElem?_insert]
      exact if_congr (beq_iff_eq.trans (by simp)) rfl rfl
  counters id := (Std.HashMap.getElem?_insert ..).trans (if_congr beq_iff_eq rfl rfl)

variable {record : Record} {policy : RetryPolicy} {disposition : Disposition}

/-- What was stored is acknowledged, without a letter. -/
theorem Verdict.of_ok {outcome : Outcome} {recorded : List Letter} {refused : Nat}
    (verdict : Verdict policy record (.ok outcome) disposition recorded refused) :
    disposition = .acked outcome ∧ recorded = [] := by
  cases verdict
  exact ⟨rfl, rfl⟩

/-- A failure leaves a letter, or nothing. -/
theorem effect_of_failure {failed : Stage × Failure} {recorded : List Letter} {refused : Nat}
    (verdict : Verdict policy record (.error failed) disposition recorded refused) :
    Effect record m disposition recorded m := by
  cases verdict with
  | @lettered stage failure failedAt =>
    have isFrom : IsFrom record (letterOf record failure failedAt) := ⟨rfl, rfl, rfl⟩
    exact .lettered isFrom
  | refused | postponed => exact .left ..

/-- **A dispatch on a store that records a ledger** has one effect. -/
theorem effect_of_dispatch (records : m.Records l) {events : List (Event Memory)}
    (h : Passage faultyDispatch (dispatch policy record) m events disposition m') :
    Effect record m disposition (letters events) m' := by
  obtain ⟨-, result, -, -, piped, verdict⟩ := verdict_of_dispatch faultyDispatch_storeOnly h
  cases piped with
  | unread | unaccepted => exact effect_of_failure verdict
  | @persisted _ _ accepted _ _ _ read accept passage =>
    cases of_persist records passage with
    | failed failure => exact effect_of_failure verdict
    | found mem shares =>
      obtain ⟨rfl, none⟩ := verdict.of_ok
      rw [none]
      exact .found (records.mem_rows.2 mem) ⟨_, _, _, read, accept, shares⟩
    | added free =>
      obtain ⟨rfl, none⟩ := verdict.of_ok
      rw [none]
      exact .added (adds_entry records free) ⟨_, _, _, read, accept, .inl rfl⟩

/-- **Every dispatch has one effect.** On whatever store in memory operations have led to, with
surroundings that are as free as one likes in when questions fail and looks miss: a dispatch comes
to an end, and wherever it ends, its effect is one of four. So a record that is to be
acknowledged has its message in the store or its letter recorded, and no dispatch both adds a row
and records a letter. -/
theorem dispatch_has_one_effect {τ : Type} {W : World api (τ × Memory)}
    (total : ∀ q s, ∃ a s', W q s a s')
    (faults : ∀ q s a s', W q s a s' → faultyDispatch q s.2 a s'.2)
    (policy : RetryPolicy) (record : Record) (operations : List Operation) (t : τ) :
    let m := after Memory.perform .empty operations
    (∃ events disposition s', Passage W (dispatch policy record) (t, m) events disposition s') ∧
      ∀ events disposition s', Passage W (dispatch policy record) (t, m) events disposition s' →
        Effect record m disposition (letters events) s'.2 ∧
        (disposition.shouldAck = true →
          (∃ row ∈ s'.2.rows, IsOf record row) ∨ ∃ letter ∈ letters events, IsFrom record letter) ∧
        ¬((∃ row ∈ s'.2.rows, row ∉ m.rows) ∧ letters events ≠ []) := by
  intro m
  obtain ⟨-, records⟩ := Store.Memory.records_empty.performs operations
  refine ⟨Dialogue.exists_passage total _ _, fun events disposition s' h => ?_⟩
  have seen := h.map (f := Prod.snd) faults
  have effect := effect_of_dispatch records seen
  rw [letters_mapState] at effect
  refine ⟨effect, ?_⟩
  generalize letters events = recorded, s'.2 = m' at effect
  cases effect with
  | added adds isOf => exact ⟨fun _ => .inl ⟨_, adds.rows.mem_iff.2 (.head _), isOf⟩, by simp⟩
  | found mem isOf => exact ⟨fun _ => .inl ⟨_, mem, isOf⟩, by simp⟩
  | lettered isFrom => exact ⟨fun _ => .inr ⟨_, .head _, isFrom⟩, fun ⟨⟨_, mem, new⟩, _⟩ => new mem⟩
  | left => exact ⟨nofun, by simp⟩

/-- **A stored event that two looks miss**: the insert is refused, and the next look finds the
row. -/
theorem missed_looks_find_row :
    ∃ (record : Record) (operations : List Operation) (row : Message)
      (events : List (Event (Unit × Memory))),
      let m := after Memory.perform .empty operations
      Passage (fun q s a s' => faultyDispatch q s.2 a s'.2) (dispatch .default record) ((), m)
          events (.acked ⟨row, true⟩) ((), m) ∧
        Effect record m (.acked ⟨row, true⟩) (letters events) m := by
  let record : Record := ⟨"chat", 0, 0, none, some (Utf8.encode
    ("\x7b\"eventId\":\"e1\",\"clientMsgId\":\"m1\",\"conversationId\":\"c1\"," ++
      "\"senderId\":\"alice\",\"content\":\"hello\"\x7d")), 1⟩
  let event : ChatEvent :=
    ⟨some "e1", some "m1", some "c1", some "alice", none, none, none, some "hello", none, none⟩
  let accepted : AcceptedEvent :=
    ⟨"e1", some "m1", "c1", "alice", none, "hello", none, .epoch⟩
  let row := entry [] accepted
  let m := after Memory.perform .empty [.ask (.insert accepted)]
  have read : ChatEvent.ofPayload? record.payload = .ok event :=
    toOption_eq_some_iff.1 (by decide +kernel)
  have stored : m = Memory.empty.add accepted row :=
    congrArg Prod.snd (Memory.insert_empty accepted)
  have missed : ∀ id, faulty (.findByEventId id) m (.ok none) m := fun id => .inr ⟨.inr rfl, rfl⟩
  have missed' : ∀ id, faulty (.findByClientMsgId id) m (.ok none) m :=
    fun id => .inr ⟨.inr rfl, rfl⟩
  have refused : faulty (.insert accepted) m (.error (.notUnique (some Store.eventIdKey))) m := by
    refine .inl (Memory.insert_of_conflict ?_).symm
    simp [stored, Memory.conflict?, Memory.add]
  have found : faulty (.findByEventId "e1") m (.ok (some row)) m := by
    refine .inl ?_
    simp [stored, Memory.answer, Memory.findByEventId, Memory.add, accepted]
  let W : World api (Unit × Memory) := fun q s a s' => faultyDispatch q s.2 a s'.2
  have total : ∀ q s, ∃ a s', W q s a s' := by
    rintro (q | _ | _ | _) ⟨_, m⟩
    · exact ⟨_, ((), (m.answer q).2), .inl rfl⟩
    · exact ⟨.ok (), ((), m), rfl⟩
    · exact ⟨.epoch, ((), m), rfl⟩
    · exact ⟨.one, ((), m), rfl⟩
  -- nothing that is asked on this way changes the store
  have ask : ∀ {q a events} {rest : api.Answer q → Talk Disposition} {disposition s'},
      faultyDispatch q m a m → Passage W (rest a) ((), m) events disposition s' →
      Passage W (.ask q rest) ((), m) (.answered q a ((), m) :: events) disposition s' :=
    fun ha h => .ask ha h
  have now : faultyDispatch .now m Timestamp.epoch m := rfl
  have passage : ∃ events,
      Passage W (dispatch .default record) ((), m) events (.acked ⟨row, true⟩) ((), m) := by
    rw [dispatch_of_read .default read]
    exact ⟨_, .tell <| .tell <| ask now <| .tell <| ask (missed _) <| ask (missed' _) <|
      ask refused <| .tell <| ask found <| .tell <| .tell <| .tell <| .tell <| .tell <| .done⟩
  obtain ⟨events, passage⟩ := passage
  have effect := (dispatch_has_one_effect total (fun _ _ _ _ h => h) .default record
    [.ask (.insert accepted)] ()).2 _ _ _ passage
  exact ⟨record, _, row, events, passage, effect.1⟩

end MessageIntake.Dispatch
