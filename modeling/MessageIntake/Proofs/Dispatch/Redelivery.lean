import MessageIntake.Proofs.Dispatch.Course
import MessageIntake.Proofs.Dispatch.Needs
import MessageIntake.Proofs.Gathering
import MessageIntake.Proofs.Store.Ledger
/-!
# Records that are delivered again

Any number of dispatches, one after the other or at the same time, of any records, each as
often as one likes, on a store in memory that falters: any question may fail with any failure,
and an insert that fails may have been taken all the same. What is found is true. Letters may
be published or not, and the clock and chance give what they like.

The store goes on as if it did not falter, since the next delivery of an event finds what an
earlier one left.
-/

namespace MessageIntake.Dispatch

open Store (Memory ofConversation)

variable {ι : Type}

/-! ### A store that falters -/

/-- **What a store that falters may answer**: what it should, or any failure, the question
having had its effect or not. -/
def Falters (m : Memory) (q : Store.Question) (a : Store.api.Answer q) (m' : Memory) : Prop :=
  (a, m') = m.answer q ∨ (∃ failure, a = .error failure) ∧ (m' = m ∨ m' = (m.answer q).2)

/-- **A store has grown**: it holds what it held, and what came after it. -/
def Grows (m m' : Memory) : Prop := ∀ l, m.Records l → ∃ k, m'.Records (l ++ k)

theorem Grows.refl (m : Memory) : Grows m m := fun l h => ⟨[], by rwa [List.append_nil]⟩

theorem Grows.trans {m m' m'' : Memory} (h : Grows m m') (h' : Grows m' m'') :
    Grows m m'' := fun l records => by
  obtain ⟨k, records'⟩ := h l records
  obtain ⟨k', records''⟩ := h' _ records'
  exact ⟨k ++ k', by rwa [← List.append_assoc]⟩

/-- A store that grows keeps its rows. -/
theorem Grows.rows {m m' : Memory} {l : List Message} (h : Grows m m') (records : m.Records l) :
    m.rows ⊆ m'.rows := fun x hx => by
  obtain ⟨k, records'⟩ := h l records
  exact records'.mem_rows.2 (List.mem_append_left k (records.mem_rows.1 hx))

/-- The counters of a store that grows do not go down. -/
theorem Grows.lastSeq_le {m m' : Memory} {l : List Message} (h : Grows m m')
    (records : m.Records l) (id : String) : m.lastSeq id ≤ m'.lastSeq id := by
  obtain ⟨k, records'⟩ := h l records
  rw [records.lastSeq_eq, records'.lastSeq_eq, Store.ofConversation_append, List.length_append]
  omega

/-- **Whatever a store is asked, it grows.** -/
theorem grows_answer (m : Memory) (q : Store.Question) : Grows m (m.answer q).2 := by
  intro l records
  cases q with
  | insert event =>
    rcases records.insert_cases event with ⟨_, _, _, _, eq⟩ | ⟨free, eq⟩
    · exact ⟨[], by simpa [Memory.answer, eq] using records⟩
    · exact ⟨[Store.entry l event], by simpa [Memory.answer, eq] using records.add free⟩
  | findByEventId | findByClientMsgId | lastSeq => exact Grows.refl m l records

theorem Falters.grows {m m' : Memory} {q : Store.Question} {a : Store.api.Answer q}
    (h : Falters m q a m') : Grows m m' := by
  rcases h with eq | ⟨_, rfl | rfl⟩
  · rw [(Prod.mk.inj eq).2]
    exact grows_answer m q
  · exact .refl m'
  · exact grows_answer m q

/-- An answer that is no failure is the one that it should be. -/
theorem Falters.of_ok {m m' : Memory} {q : Store.Question} {r : q.Result}
    (h : Falters m q (.ok r) m') : (.ok r, m') = m.answer q :=
  h.resolve_right fun ⟨⟨_, failed⟩, _⟩ => nomatch failed

section

variable {m m' : Memory} {l : List Message} {x : Message}

/-- A message that is found is a row of the store. -/
theorem Falters.row_of_eventId {id : String} (records : m.Records l)
    (h : Falters m (.findByEventId id) (.ok (some x)) m') : x ∈ m'.rows := by
  obtain ⟨found, rfl⟩ := Prod.mk.inj h.of_ok
  exact records.mem_rows.2 (records.findByEventId_eq_some_iff.1 (Except.ok.inj found).symm).1

theorem Falters.row_of_clientMsgId {id : String} (records : m.Records l)
    (h : Falters m (.findByClientMsgId id) (.ok (some x)) m') : x ∈ m'.rows := by
  obtain ⟨found, rfl⟩ := Prod.mk.inj h.of_ok
  exact records.mem_rows.2 (records.findByClientMsgId_eq_some_iff.1 (Except.ok.inj found).symm).1

/-- A message that an insert returns is a row of the store. -/
theorem Falters.row_of_insert {event : AcceptedEvent} (records : m.Records l)
    (h : Falters m (.insert event) (.ok x) m') : x ∈ m'.rows := by
  rcases records.insert_cases event with ⟨_, _, _, _, eq⟩ | ⟨free, eq⟩
  · cases h.of_ok.trans eq
  · obtain ⟨same, rfl⟩ := Prod.mk.inj (h.of_ok.trans eq)
    cases same
    exact (records.add free).mem_rows.2 (by simp)

end

/-! ### Dispatches -/

/-- **Dispatches** under one policy on one store that falters; dispatch `i` is of
`record i`. -/
def dispatches (policy : RetryPolicy) (record : ι → Record) :
    Setting ι api Telemetry Disposition Memory where
  part i := dispatch policy (record i)
  answers _ question m answer m' :=
    match question, answer with
    | .store q, answer => Falters m q answer m'
    | .publish .., _ | .now, _ | .factor, _ => m' = m
  hears _ _ m := m

/-- **The invariant of dispatches**: the store holds a ledger, and in it the message of every
record that was acknowledged as stored. -/
structure Kept (c : Affairs ι api Disposition Memory) : Prop where
  records : ∃ l, c.state.Records l
  stored : ∀ i o, .ended i (.acked o) ∈ c.history → o.message ∈ c.state.rows

variable {policy : RetryPolicy} {record : ι → Record}
  {c d : Affairs ι api Disposition Memory} {i : ι}

/-- Any answer keeps the invariant, if the store has at most grown in it. -/
theorem Kept.answered (h : Kept d) {question : Question} {a : api.Answer question} {m : Memory}
    (grows : Grows d.state m) : Kept (d.answered i question a m) := by
  obtain ⟨l, records⟩ := h.records
  obtain ⟨k, records'⟩ := grows l records
  exact ⟨⟨_, records'⟩, fun j o mem =>
    grows.rows records (h.stored j o (Affairs.ended_mem_answered.1 mem))⟩

/-- **The discipline of dispatches**: each relies on the rows' staying. -/
def discipline : Discipline ι api Disposition Memory where
  inv := Kept
  rely _ m m' := m.rows ⊆ m'.rows
  rely_refl _ _ := List.Subset.refl _
  rely_trans _ _ _ _ := List.Subset.trans

/-- A question to the store is allowed. -/
theorem allows_store (h : Kept d) {q : Store.Question} {a : Store.api.Answer q} {m : Memory}
    (falters : Falters d.state q a m) :
    discipline.Allows i d (d.answered i (.store q) a m) := by
  obtain ⟨l, records⟩ := h.records
  exact ⟨h.answered falters.grows, fun _ _ => falters.grows.rows records⟩

/-- So is every other question, and every note. -/
theorem lenient (policy : RetryPolicy) (record : ι → Record) (i : ι) :
    Lenient (discipline.spec (dispatches policy record) i) where
  tell note c d while_cd := ⟨⟨while_cd.inv, fun _ _ => List.Subset.refl _⟩, trivial⟩
  ask question c aside d while_cd a m ha := by
    have same : m = d.state := by
      cases question with
      | store q => exact absurd rfl (aside q)
      | publish | now | factor => exact ha
    subst same
    exact ⟨⟨while_cd.inv.answered (.refl _), fun _ _ => List.Subset.refl _⟩, trivial⟩

/-- A row stays in the store while a note is told. -/
theorem keeps_row (note : Telemetry) {m : Message} (h : m ∈ d.state.rows) :
    (discipline.spec (dispatches policy record) i).tell note (fun d => m ∈ d.state.rows) d :=
  fun _ while_de => ⟨⟨while_de.inv, fun _ _ => List.Subset.refl _⟩, while_de.rely h⟩

/-- **Storing an event** on a store that falters ends with a row of the store. -/
theorem wp_withStore_persist (event : AcceptedEvent)
    (c : Affairs ι api Disposition Memory) :
    (withStore (Persistence.persist event)).wp (discipline.spec (dispatches policy record) i)
      (fun r d => ∀ o, r = .ok o → o.message ∈ d.state.rows) c := by
  rw [withStore, Dialogue.wp_embed]
  refine Persistence.wp_persist (fun m d => m ∈ d.state.rows) ?tells ?keeps ?byEvent ?byClient
    ?inserts c
  case tells => exact (lenient policy record i).tell
  case keeps => exact fun note m d => keeps_row note
  case byEvent =>
    intro c d while_cd a m falters
    obtain ⟨l, records⟩ := while_cd.inv.records
    refine ⟨allows_store while_cd.inv falters, ?_⟩
    rintro x rfl
    exact Falters.row_of_eventId records falters
  case byClient =>
    intro id c _ d while_cd a m falters
    obtain ⟨l, records⟩ := while_cd.inv.records
    refine ⟨allows_store while_cd.inv falters, ?_⟩
    rintro x rfl
    exact Falters.row_of_clientMsgId records falters
  case inserts =>
    intro c d while_cd a m falters
    obtain ⟨l, records⟩ := while_cd.inv.records
    refine ⟨allows_store while_cd.inv falters, ?_⟩
    rintro x rfl
    exact Falters.row_of_insert records falters

/-- **All dispatches keep the discipline.** -/
theorem kept (policy : RetryPolicy) (record : ι → Record) :
    discipline.Kept (dispatches policy record) .empty where
  opening := ⟨⟨[], Memory.records_empty⟩, by simp⟩
  begins who c inv _ := ⟨inv.records, fun i o mem =>
    inv.stored i o (Affairs.ended_mem_began.1 mem)⟩
  sound who c _ _ := by
    refine Dialogue.wp_mono (fun disposition d stored e while_de => ?_)
      (wp_dispatch (fun o d => o.message ∈ d.state.rows) (lenient policy record who)
        (fun note o d => keeps_row note)
        (fun _ _ accepted _ _ => wp_withStore_persist accepted) (c.began who))
    refine ⟨⟨while_de.inv.records, fun i o mem => ?_⟩, fun _ _ => List.Subset.refl _⟩
    rcases Affairs.ended_mem_ended.1 mem with ⟨rfl, same⟩ | mem
    · exact while_de.rely (stored o same.symm)
    · exact while_de.inv.stored i o mem

/-! ### A record whose event is stored -/

/-- The `eventId` of an accepted event does not hang on when it was received. -/
theorem eventId_of_accept {event : ChatEvent} {receivedAt : Timestamp} {accepted : AcceptedEvent}
    (h : event.accept receivedAt = .ok accepted) :
    ChatEvent.identifier "eventId" event.mergeSpellings.eventId = .ok accepted.eventId := by
  simp only [ChatEvent.accept] at h
  split at h
  · cases h
  · cases eventId : ChatEvent.identifier "eventId" event.mergeSpellings.eventId with
    | error failure => simp [eventId, bind, Except.bind] at h
    | ok id =>
      simp only [eventId, bind, Except.bind] at h
      repeat (split at h <;> try cases h)
      rfl

/-- **A store that has a row.** -/
def Has (row : Message) (m : Memory) : Prop := (∃ l, m.Records l) ∧ row ∈ m.rows

/-- **A dispatch of an event that is stored** leaves the store alone, and ends in an
acknowledgement only with the row as a duplicate. -/
theorem idle_dispatch {row : Message} {event : ChatEvent} {receivedAt : Timestamp}
    {accepted : AcceptedEvent}
    (read : ChatEvent.ofPayload? (record i).payload = .ok event)
    (accept : event.accept receivedAt = .ok accepted) (same : accepted.eventId = row.eventId) :
    ((dispatches policy record).part i).wp ((dispatches policy record).idle i (Has row))
      (fun disposition _ => ∀ o, disposition = .acked o → o = ⟨row, true⟩) () := by
  have lenient : Lenient ((dispatches policy record).idle i (Has row)) := {
    tell := fun _ _ _ _ => ⟨rfl, trivial⟩
    ask := fun question _ aside m _ a m' ha => by
      cases question with
      | store q => exact absurd rfl (aside q)
      | publish | now | factor => exact ⟨ha, trivial⟩ }
  refine wp_dispatch (fun o _ => o = ⟨row, true⟩) lenient (fun _ _ _ eq _ _ => ⟨rfl, eq⟩)
    (fun event' at' accepted' read' accept' c => ?_) ()
  -- the clock may say something else this time, but the `eventId` is the same
  have again : accepted'.eventId = row.eventId := by
    cases read.symm.trans read'
    rw [← same]
    exact Except.ok.inj ((eventId_of_accept accept').symm.trans (eventId_of_accept accept))
  rw [withStore, Dialogue.wp_embed]
  refine Persistence.wp_persist_of_found (fun note => lenient.tell note) ?_
  intro m ⟨⟨l, records⟩, mem⟩ a m' falters
  have found : m.findByEventId accepted'.eventId = some row :=
    records.findByEventId_eq_some_iff.2 ⟨records.mem_rows.1 mem, again.symm⟩
  rcases falters with eq | ⟨failed, rfl | rfl⟩
  · obtain ⟨rfl, rfl⟩ := Prod.mk.inj eq
    exact ⟨rfl, .inl (congrArg _ found)⟩
  · exact ⟨rfl, .inr failed⟩
  · exact ⟨rfl, .inr failed⟩

/-! ### All dispatches together -/

variable [DecidableEq ι] {g g' : Gathering ι api Telemetry Disposition Memory}

/-- **The invariant holds in every run.** -/
theorem kept_of_reachable (h : (dispatches policy record).Reachable .empty g) :
    Kept g.affairs :=
  ((kept policy record).sound_of_reachable h).1

/-- **The store only grows**, whoever makes the steps. -/
theorem grows_of_leads (h : (dispatches policy record).Leads g g') :
    Grows g.affairs.state g'.affairs.state := by
  refine h.surroundings .refl .trans (fun who question m a m' ha => ?_) fun _ _ m => .refl m
  cases question with
  | store q => exact Falters.grows ha
  | publish | now | factor => exact ha ▸ .refl m

/-- **An event is stored once however often it is delivered**, in every run of dispatches on a
store that falters. No two rows share a key; the rows of a conversation are numbered `1, 2, …`
up to its counter; rows stay as they are, and counters do not go down. What a record is
acknowledged with is a row. And from the moment on at which there is a row with an event's
`eventId`, a dispatch of the event leaves the store alone in each of its steps, and ends in an
acknowledgement only with just that row, as a duplicate. -/
theorem redelivery_stores_once (policy : RetryPolicy) (record : ι → Record)
    (h : (dispatches policy record).Reachable .empty g) :
    g.affairs.state.rows.Pairwise Message.Apart ∧
    (∀ id, 0 ≤ g.affairs.state.lastSeq id ∧ (g.affairs.state.conversation id).map (·.seqNo) =
      (List.range (g.affairs.state.lastSeq id).toNat).map fun n : Nat => (n : Int) + 1) ∧
    (∀ g', (dispatches policy record).Leads g g' →
      g.affairs.state.rows ⊆ g'.affairs.state.rows ∧
        ∀ id, g.affairs.state.lastSeq id ≤ g'.affairs.state.lastSeq id) ∧
    (∀ i o, .ended i (.acked o) ∈ g.affairs.history → o.message ∈ g.affairs.state.rows) ∧
    (∀ row ∈ g.affairs.state.rows, ∀ i event receivedAt accepted,
      g.progress i = .waiting → ChatEvent.ofPayload? (record i).payload = .ok event →
      event.accept receivedAt = .ok accepted → accepted.eventId = row.eventId →
      ∀ g', (dispatches policy record).Leads g g' →
        (∀ o, .ended i (.acked o) ∈ g'.affairs.history → o = ⟨row, true⟩) ∧
          ∀ next, (dispatches policy record).Step i g' next →
            next.affairs.state = g'.affairs.state) := by
  obtain ⟨⟨l, records⟩, stored⟩ := kept_of_reachable h
  refine ⟨?apart, fun id => ?numbers, fun g' leads => ?grows, stored, ?idle⟩
  case apart =>
    exact (records.listed.pairwise_iff (Std.Symm.symm _ _)).2 records.ledger.pairwise_apart
  case numbers =>
    rw [records.conversation_eq, records.lastSeq_eq]
    exact ⟨Int.natCast_nonneg _, records.ledger.seqNos id⟩
  case grows =>
    have grown := grows_of_leads leads
    exact ⟨grown.rows records, grown.lastSeq_le records⟩
  case idle =>
    intro row mem i event receivedAt accepted waits read accept same g' leads
    -- the row stays, so that it is found whenever the dispatch comes to look
    have always : ∀ g', (dispatches policy record).Leads g g' → Has row g'.affairs.state :=
      fun g' leads => by
        have grown := grows_of_leads leads
        obtain ⟨k, records'⟩ := grown l records
        exact ⟨⟨_, records'⟩, grown.rows records mem⟩
    obtain ⟨ends, alone⟩ :=
      Setting.Leads.idle (idle_dispatch read accept same) waits always leads
    have reached : (dispatches policy record).Reachable .empty g' := h.trans leads
    exact ⟨fun o ended => ends _ (((reached.history i).2 _).2 ended) o rfl, alone⟩

/-- **An insert whose reply is lost** is found by the next delivery. -/
theorem lost_insert_is_found :
    ∃ (record : Record) (g : Gathering Bool api Telemetry Disposition Memory) (row : Message),
      (dispatches .default fun _ => record).Reachable .empty g ∧
        (∃ delay, .ended false (.retry delay 1 .datastoreUnavailable) ∈ g.affairs.history) ∧
        .ended true (.acked ⟨row, true⟩) ∈ g.affairs.history ∧
        row ∈ g.affairs.state.rows := by
  let row := Store.entry [] greetingAccepted
  let stored := Memory.empty.add greetingAccepted row
  have missing : Falters .empty (.findByEventId "e1") (.ok none) .empty :=
    .inl (by simp [Memory.answer, Memory.findByEventId, Memory.empty])
  have taken : Falters .empty (.insert greetingAccepted) (.error (.datastoreUnavailable "reset"))
      stored := .inr ⟨⟨_, rfl⟩, .inr (congrArg Prod.snd (Memory.insert_empty _)).symm⟩
  have found : Falters stored (.findByEventId "e1") (.ok (some row)) stored :=
    .inl (by simp [Memory.answer, Memory.findByEventId, Memory.add, stored, greetingAccepted])
  have part := dispatch_of_read .default (read_greeting 0)
  have now : ∀ i m, (dispatches .default fun _ : Bool => greeting 0).answers i .now m
      Timestamp.epoch m := fun _ _ => rfl
  have opening : (dispatches .default fun _ : Bool => greeting 0).Reachable .empty
      (.opening .empty) := .opening
  have run := opening.step false (.begin rfl)
    |>.step false (.tell (congrArg _ part))
    |>.step false (.tell rfl)
    |>.step false (.ask rfl (now _ _))
    |>.step false (.tell rfl)
    |>.step false (.ask rfl missing)
    |>.step false (.ask rfl taken)
    |>.step false (.tell rfl)
    |>.step false (.tell rfl)
    |>.step false (.tell rfl)
    |>.step false (.tell rfl)
    |>.step false (.tell rfl)
    |>.step false (.finish rfl)
    |>.step true (.begin rfl)
    |>.step true (.tell (congrArg _ part))
    |>.step true (.tell rfl)
    |>.step true (.ask rfl (now _ _))
    |>.step true (.tell rfl)
    |>.step true (.ask rfl found)
    |>.step true (.tell rfl)
    |>.step true (.tell rfl)
    |>.step true (.tell rfl)
    |>.step true (.tell rfl)
    |>.step true (.tell rfl)
    |>.step true (.finish rfl)
  have stays := (redelivery_stores_once _ _ run).2.2.2.1 true
  exact ⟨greeting 0, _, row, run, ⟨_, .tail _ (.tail _ (.tail _ (.tail _ (.head _))))⟩, .head _,
    stays _ (.head _)⟩

end MessageIntake.Dispatch
