import MessageIntake.Persistence
import MessageIntake.Proofs.Gathering
import MessageIntake.Proofs.Store.Ledger
/-!
# Storing events at the same time

Any number of calls of `persist` on one store in memory, which answers one question after the
other: each call looks, and inserts if it found nothing, and any other call may come in
between. The history tells which inserts the store took (`taken`), what became of the inserts
of one call (`attempts`), and which messages the calls returned as new (`created`).

A call never fails, and inserts at most once: an insert that loses a race has lost it to a
message that stays, so that the next look finds it. The invariant is `Sane`; what a call may
count on while others work is `Since`.
-/

namespace MessageIntake.Persistence

open Store (Memory messageOf entry ofConversation)

variable {ι : Type}

/-- What happened among calls of `persist`. -/
abbrev History (ι : Type) := List (Happening ι Store.api (Except Failure Outcome))

/-- **Calls at the same time** on one store in memory; call `i` is to store `event i`. -/
def calls (event : ι → AcceptedEvent) :
    Setting ι Store.api Telemetry (Except Failure Outcome) Memory where
  part i := persist (event i)
  answers _ question m answer m' := m.answer question = (answer, m')
  hears _ _ m := m

/-! ### What a history tells -/

/-- The answer to an insert of a call. -/
def attempt? [DecidableEq ι] (who : ι) :
    Happening ι Store.api (Except Failure Outcome) → Option (Except Failure Message)
  | .answered i (.insert _) answer => if i = who then some answer else none
  | _ => none

/-- **The answers to a call's inserts**, the newest first. -/
def attempts [DecidableEq ι] (who : ι) (h : History ι) : List (Except Failure Message) :=
  h.filterMap (attempt? who)

/-- The message of an insert that the store took. -/
def accepted? : Happening ι Store.api (Except Failure Outcome) → Option Message
  | .answered _ (.insert _) (.ok m) => some m
  | _ => none

/-- **The messages that the store took**, the oldest first. -/
def taken (h : History ι) : List Message := (h.filterMap accepted?).reverse

/-- The message that a call returned as new. -/
def created? : Happening ι Store.api (Except Failure Outcome) → Option Message
  | .ended _ (.ok ⟨m, false⟩) => some m
  | _ => none

/-- **The messages that calls returned as new**, the newest first. -/
def created (h : History ι) : List Message := h.filterMap created?

theorem accepted?_eq_some_iff {x : Happening ι Store.api (Except Failure Outcome)}
    {m : Message} :
    accepted? x = some m ↔ ∃ i event, x = .answered i (.insert event) (.ok m) := by
  cases x with
  | answered i question answer =>
    cases question with
    | insert event => cases answer <;> simp [accepted?]
    | _ => simp [accepted?]
  | _ => simp [accepted?]

theorem created?_eq_some_iff {x : Happening ι Store.api (Except Failure Outcome)}
    {m : Message} : created? x = some m ↔ ∃ i, x = .ended i (.ok ⟨m, false⟩) := by
  cases x with
  | ended i result =>
    match result with
    | .error _ | .ok ⟨_, true⟩ | .ok ⟨_, false⟩ => simp [created?]
  | _ => simp [created?]

theorem mem_taken {h : History ι} {m : Message} :
    m ∈ taken h ↔ ∃ i event, .answered i (.insert event) (.ok m) ∈ h := by
  simp only [taken, List.mem_reverse, List.mem_filterMap, accepted?_eq_some_iff]
  exact ⟨fun ⟨_, mem, i, event, eq⟩ => ⟨i, event, eq ▸ mem⟩,
    fun ⟨i, event, mem⟩ => ⟨_, mem, i, event, rfl⟩⟩

theorem mem_created {h : History ι} {m : Message} :
    m ∈ created h ↔ ∃ i, .ended i (.ok ⟨m, false⟩) ∈ h := by
  simp only [created, List.mem_filterMap, created?_eq_some_iff]
  exact ⟨fun ⟨_, mem, i, eq⟩ => ⟨i, eq ▸ mem⟩, fun ⟨i, mem⟩ => ⟨_, mem, i, rfl⟩⟩

theorem taken_cons (x : Happening ι Store.api (Except Failure Outcome)) (h : History ι) :
    taken (x :: h) = taken h ++ (accepted? x).toList := by
  cases hx : accepted? x <;> simp [taken, hx]

theorem taken_subset_append (later h : History ι) : taken h ⊆ taken (later ++ h) := by
  simp [taken]

variable [DecidableEq ι]

theorem attempt?_eq_some_iff {x : Happening ι Store.api (Except Failure Outcome)} {who : ι}
    {answer : Except Failure Message} :
    attempt? who x = some answer ↔ ∃ event, x = .answered who (.insert event) answer := by
  cases x with
  | answered i question _ => cases question <;> simp [attempt?]
  | _ => simp [attempt?]

theorem mem_attempts {h : History ι} {who : ι} {answer : Except Failure Message} :
    answer ∈ attempts who h ↔ ∃ event, .answered who (.insert event) answer ∈ h := by
  simp only [attempts, List.mem_filterMap, attempt?_eq_some_iff]
  exact ⟨fun ⟨_, mem, event, eq⟩ => ⟨event, eq ▸ mem⟩,
    fun ⟨event, mem⟩ => ⟨_, mem, event, rfl⟩⟩

theorem attempts_cons (who : ι) (x : Happening ι Store.api (Except Failure Outcome))
    (h : History ι) : attempts who (x :: h) = (attempt? who x).toList ++ attempts who h := by
  cases hx : attempt? who x <;> simp [attempts, hx]

/-- What others do is no attempt of a call. -/
theorem attempts_append {who : ι} {later : History ι} (others : ∀ x ∈ later, x.who ≠ who)
    (h : History ι) : attempts who (later ++ h) = attempts who h := by
  have none : attempts who later = [] := by
    refine List.eq_nil_iff_forall_not_mem.2 fun answer mem => ?_
    obtain ⟨event, mem⟩ := mem_attempts.1 mem
    exact others _ mem rfl
  rw [attempts, List.filterMap_append]
  exact congrArg (· ++ attempts who h) none

/-- A message was taken from one call only. -/
theorem eq_of_mem_attempts {h : History ι} (nodup : (taken h).Nodup) {i j : ι} {m : Message}
    (hi : .ok m ∈ attempts i h) (hj : .ok m ∈ attempts j h) : i = j := by
  induction h with
  | nil => simp [attempts] at hi
  | cons x h ih =>
    rw [taken_cons] at nodup
    have fresh : accepted? x = some m → m ∉ taken h := fun hx mem => by
      rw [hx] at nodup
      exact (List.nodup_append.1 nodup).2.2 m mem m (by simp) rfl
    have old : ∀ k, .ok m ∈ attempts k h → m ∈ taken h := fun k mem => by
      obtain ⟨event, mem⟩ := mem_attempts.1 mem
      exact mem_taken.2 ⟨k, event, mem⟩
    simp only [attempts_cons, List.mem_append, Option.mem_toList, attempt?_eq_some_iff] at hi hj
    rcases hi with ⟨e, rfl⟩ | hi <;> rcases hj with ⟨e', hx⟩ | hj
    · simp_all
    · exact absurd (old j hj) (fresh rfl)
    · exact absurd (old i hi) (fresh (hx ▸ rfl))
    · exact ih (List.Nodup.of_append_left nodup) hi hj

/-! ### The invariant -/

/-- **A call's result is in keeping** with what happened: it is no failure; a duplicate is a
message that the store took and that shares a key with the event, and no insert of the call
itself was taken; a new message is that of the call's insert. -/
def Proper (event : ι → AcceptedEvent) (h : History ι) (i : ι) :
    Except Failure Outcome → Prop
  | .error _ => False
  | .ok ⟨m, true⟩ => m ∈ taken h ∧ m.SharesKey (event i) ∧ ∀ m', .ok m' ∉ attempts i h
  | .ok ⟨m, false⟩ => .ok m ∈ attempts i h ∧ ∃ id seqNo, m = messageOf (event i) id seqNo

/-- **The invariant of calls at the same time.** -/
structure Sane (event : ι → AcceptedEvent)
    (c : Affairs ι Store.api (Except Failure Outcome) Memory) : Prop where
  records : c.state.Records (taken c.history)
  few : ∀ i, (attempts i c.history).length ≤ 1
  settled : ∀ i result, .ended i result ∈ c.history → Proper event c.history i result
  once : (created c.history).Nodup
  /-- A call that still does something after another one returned a new message gets a larger
  number. -/
  ordered : ∀ i x m m', (∀ result, x ≠ .ended x.who result) →
    [x, .ended i (.ok ⟨m, false⟩)].Sublist c.history → .ok m' ∈ attempts x.who c.history →
      m.conversationId = m'.conversationId → m.seqNo < m'.seqNo

variable {event : ι → AcceptedEvent}
  {c d : Affairs ι Store.api (Except Failure Outcome) Memory} {i : ι}

/-- What others do, and what the store takes from them, leaves a result in keeping. -/
theorem Proper.mono {h h' : History ι} {result : Except Failure Outcome}
    (hr : Proper event h i result) (more : taken h ⊆ taken h')
    (same : attempts i h' = attempts i h) : Proper event h' i result := by
  match result with
  | .error _ => exact hr
  | .ok ⟨m, true⟩ => exact ⟨more hr.1, hr.2.1, fun m' => same ▸ hr.2.2 m'⟩
  | .ok ⟨m, false⟩ => exact ⟨same ▸ hr.1, hr.2⟩

/-- **A step that is no end** keeps the invariant, if it is an insert for the first time, or
no insert at all, and no insert of the call was taken before. -/
theorem Sane.push (h : Sane event c) {x : Happening ι Store.api (Except Failure Outcome)}
    {state : Memory} (notEnd : ∀ k result, x ≠ .ended k result)
    (unended : ∀ result, .ended x.who result ∉ c.history)
    (untaken : ∀ m, .ok m ∉ attempts x.who c.history)
    (first : ∀ a, attempt? x.who x = some a → attempts x.who c.history = [])
    (later : ∀ m', attempt? x.who x = some (.ok m') → ∀ m ∈ taken c.history,
      m.conversationId = m'.conversationId → m.seqNo < m'.seqNo)
    (records : state.Records (taken (x :: c.history))) :
    Sane event ⟨state, x :: c.history⟩ where
  records := records
  few k := by
    rw [attempts_cons]
    cases hx : attempt? k x with
    | none => simpa using h.few k
    | some a =>
      obtain ⟨_, rfl⟩ := attempt?_eq_some_iff.1 hx
      simp only [Happening.who] at first
      rw [first a hx]
      simp
  settled k result mem := by
    have mem : .ended k result ∈ c.history :=
      (List.mem_cons.1 mem).resolve_left fun eq => notEnd k result eq.symm
    have other : k ≠ x.who := fun eq => unended result (eq ▸ mem)
    have none : attempt? k x = none := by
      refine Option.eq_none_iff_forall_ne_some.2 fun a some => other ?_
      obtain ⟨_, rfl⟩ := attempt?_eq_some_iff.1 some
      rfl
    exact (h.settled k result mem).mono (taken_subset_append [x] _) (by simp [attempts_cons, none])
  once := by
    have none : created? x = none := Option.eq_none_iff_forall_ne_some.2 fun m some => by
      obtain ⟨k, rfl⟩ := created?_eq_some_iff.1 some
      exact notEnd k _ rfl
    simpa [created, none] using h.once
  ordered k y m m' unended' sub mem same := by
    rw [attempts_cons, List.mem_append, Option.mem_toList] at mem
    have inTaken : .ended k (.ok ⟨m, false⟩) ∈ c.history → m ∈ taken c.history := fun mem => by
      obtain ⟨_, mem⟩ := mem_attempts.1 (h.settled k _ mem).1
      exact mem_taken.2 ⟨_, _, mem⟩
    have earlier : .ended k (.ok ⟨m, false⟩) ∈ c.history :=
      (List.mem_cons.1 (sub.subset (by simp))).resolve_left fun eq => notEnd k _ eq.symm
    rcases mem with some | mem
    · -- the insert that was taken just now
      obtain ⟨_, rfl⟩ := attempt?_eq_some_iff.1 some
      exact later m' some m (inTaken earlier) same
    · -- the insert was taken before, so that the step at hand is another call's
      rcases List.cons_sublist_cons'.1 sub with sub | ⟨rfl, _⟩
      · exact h.ordered k y m m' unended' sub mem same
      · exact absurd mem (untaken m')

/-- **An end** keeps the invariant if its result is in keeping. -/
theorem Sane.ended (h : Sane event c) (unended : ∀ result, .ended i result ∉ c.history)
    {result : Except Failure Outcome} (proper : Proper event c.history i result) :
    Sane event (c.ended i result) where
  records := by simpa [Affairs.ended, taken_cons, accepted?] using h.records
  few k := by simpa [Affairs.ended, attempts_cons, attempt?] using h.few k
  settled k result' mem := by
    have kept : Proper event c.history k result' := by
      rcases Affairs.ended_mem_ended.1 mem with ⟨rfl, rfl⟩ | mem
      · exact proper
      · exact h.settled k result' mem
    exact kept.mono (taken_subset_append [_] _) (by simp [Affairs.ended, attempts_cons, attempt?])
  once := by
    rw [Affairs.ended, created, List.filterMap_cons]
    rcases result with _ | ⟨m, _ | _⟩
    · exact h.once
    · -- who returned the message as new before has made its insert, and would be this call
      refine List.nodup_cons.2 ⟨fun mem => ?_, h.once⟩
      obtain ⟨k, mem⟩ := mem_created.1 mem
      have same := eq_of_mem_attempts h.records.ledger.nodup (h.settled k _ mem).1 proper.1
      exact unended _ (same ▸ mem)
    · exact h.once
  ordered k x m m' notEnd sub mem same := by
    rcases List.cons_sublist_cons'.1 sub with sub | ⟨rfl, _⟩
    · refine h.ordered k x m m' notEnd sub ?_ same
      simpa [Affairs.ended, attempts_cons, attempt?] using mem
    · exact absurd rfl (notEnd _)

/-! ### One call among others -/

/-- **The discipline of calls**: the invariant is all that a call relies on. -/
def discipline (event : ι → AcceptedEvent) :
    Discipline ι Store.api (Except Failure Outcome) Memory where
  inv := Sane event
  rely _ _ _ := True
  rely_refl _ _ := trivial
  rely_trans := by simp

/-- **Since** an earlier moment the store took messages only, and the call made no insert. -/
structure Since (event : ι → AcceptedEvent) (i : ι)
    (c d : Affairs ι Store.api (Except Failure Outcome) Memory) : Prop where
  sane : Sane event d
  same : attempts i d.history = attempts i c.history
  more : taken c.history ⊆ taken d.history

theorem Since.refl (h : Sane event c) : Since event i c c := ⟨h, rfl, fun _ => id⟩

theorem Since.trans {e : Affairs ι Store.api (Except Failure Outcome) Memory}
    (h : Since event i c d) (k : Since event i d e) : Since event i c e :=
  ⟨k.sane, k.same.trans h.same, fun _ mem => k.more (h.more mem)⟩

theorem Since.of_meanwhile (h : (discipline event).Meanwhile i c d) : Since event i c d := by
  obtain ⟨later, eq, others⟩ := h.aside
  exact ⟨h.inv, eq ▸ attempts_append others _, eq ▸ taken_subset_append later _⟩

/-- An allowed step is one that keeps the invariant. -/
theorem allows (h : Sane event d) : (discipline event).Allows i c d :=
  ⟨h, fun _ _ => trivial⟩

/-- **A look** is an allowed step, and nothing is taken in it. -/
theorem Sane.look (h : Sane event c) (unended : ∀ result, .ended i result ∉ c.history)
    (untaken : ∀ m, .ok m ∉ attempts i c.history) (question : Store.Question)
    (answer : Except Failure question.Result) (notInsert : ∀ e, question ≠ .insert e) :
    Since event i c (c.answered i question answer c.state) := by
  have notTried : attempt? i (.answered i question answer) = none :=
    Option.eq_none_iff_forall_ne_some.2 fun a some => by
      obtain ⟨e, eq⟩ := attempt?_eq_some_iff.1 some
      cases eq
      exact notInsert e rfl
  have notTaken : accepted? (.answered i question answer) = none :=
    Option.eq_none_iff_forall_ne_some.2 fun m some => by
      obtain ⟨k, e, eq⟩ := accepted?_eq_some_iff.1 some
      cases eq
      exact notInsert e rfl
  refine ⟨h.push (x := .answered i question answer) (by simp) unended untaken ?_ ?_ ?_, ?_, ?_⟩
  · simp [Happening.who, notTried]
  · simp [Happening.who, notTried]
  · simpa [taken_cons, notTaken] using h.records
  · simp [Affairs.answered, attempts_cons, notTried]
  · exact taken_subset_append [_] _

/-- **Looking for an event** finds a message that shares a key with it, or there was none when
the look began. -/
theorem wp_findExisting (untaken : ∀ m, .ok m ∉ attempts i c.history)
    {wish : Except Failure (Option Message) →
      Affairs ι Store.api (Except Failure Outcome) Memory → Prop}
    (found : ∀ d m, Since event i c d → m ∈ taken d.history → m.SharesKey (event i) →
      wish (.ok (some m)) d)
    (missing : ∀ d, Since event i c d → (∀ m ∈ taken c.history, ¬m.SharesKey (event i)) →
      wish (.ok none) d) :
    (findExisting (event i)).wp ((discipline event).spec (calls event) i) wish c := by
  rintro d while_cd _ _ ⟨⟩
  have since_d := Since.of_meanwhile while_cd
  have look_d := while_cd.inv.look while_cd.unended (fun m => since_d.same ▸ untaken m)
    (.findByEventId (event i).eventId) (.ok (d.state.findByEventId (event i).eventId)) (by simp)
  refine ⟨allows look_d.sane, ?_⟩
  cases byEvent : d.state.findByEventId (event i).eventId with
  | some m =>
    obtain ⟨mem, same⟩ := while_cd.inv.records.findByEventId_eq_some_iff.1 byEvent
    exact found _ m (byEvent ▸ since_d.trans look_d) (look_d.more mem) (.inl same)
  | none =>
    have noEvent := while_cd.inv.records.findByEventId_eq_none_iff.1 byEvent
    rw [byEvent] at look_d
    cases hid : (event i).clientMsgId with
    | none =>
      refine missing _ (since_d.trans look_d) fun m mem shares => ?_
      rcases shares with same | ⟨_, some, _⟩
      · exact noEvent m (since_d.more mem) same
      · simp [hid] at some
    | some id =>
      rintro e while_de _ _ ⟨⟩
      have since_e := (since_d.trans look_d).trans (.of_meanwhile while_de)
      have look_e := while_de.inv.look while_de.unended (fun m => since_e.same ▸ untaken m)
        (.findByClientMsgId id) (.ok (e.state.findByClientMsgId id)) (by simp)
      refine ⟨allows look_e.sane, ?_⟩
      cases byClient : e.state.findByClientMsgId id with
      | some m =>
        obtain ⟨mem, same⟩ := while_de.inv.records.findByClientMsgId_eq_some_iff.1 byClient
        exact found _ m (byClient ▸ since_e.trans look_e) (look_e.more mem) (.inr ⟨id, hid, same⟩)
      | none =>
        have noClient := while_de.inv.records.findByClientMsgId_eq_none_iff.1 byClient
        -- each key was free when it was looked up, and so it was when the look began
        refine missing _ (byClient ▸ since_e.trans look_e) fun m mem shares => ?_
        rcases shares with same | ⟨id', some, same⟩
        · exact noEvent m (since_d.more mem) same
        · rw [hid, Option.some.injEq] at some
          exact noClient m (since_e.more mem) (some ▸ same)

/-- A call may end once its result is in keeping. -/
theorem ending_of_proper {result : Except Failure Outcome}
    (proper : ∀ d, Since event i c d → Proper event d.history i result) :
    (discipline event).Sound (calls event) i (.done result) c :=
  fun d while_cd => allows
    (while_cd.inv.ended while_cd.unended (proper d (.of_meanwhile while_cd)))

/-- A note is an allowed step. -/
theorem sound_tell {note : Telemetry} {rest : Talk Outcome}
    (h : ∀ d, Since event i c d → (discipline event).Sound (calls event) i rest d) :
    (discipline event).Sound (calls event) i (.tell note rest) c :=
  fun d while_cd => ⟨allows while_cd.inv, h d (.of_meanwhile while_cd)⟩

/-- **The insert of a call** that made none before is taken, or it is refused for a message
that stays. -/
theorem sound_insert (none : attempts i c.history = [])
    {next : Except Failure Message → Talk Outcome}
    (accepted : ∀ d m, (∃ id seqNo, m = messageOf (event i) id seqNo) →
      .ok m ∈ attempts i d.history → (discipline event).Sound (calls event) i (next (.ok m)) d)
    (refused : ∀ d failure, (∀ m, .ok m ∉ attempts i d.history) →
      (∃ m ∈ taken d.history, m.SharesKey (event i)) → failure.isNotUnique →
        (discipline event).Sound (calls event) i (next (.error failure)) d) :
    (discipline event).Sound (calls event) i (.ask (.insert (event i)) next) c := by
  intro d while_cd answer state ha
  have none_d : attempts i d.history = [] := (Since.of_meanwhile while_cd).same.trans none
  have records := while_cd.inv.records
  rcases records.insert_cases (event i) with ⟨key, m, mem, shares, eq⟩ | ⟨free, eq⟩
  · obtain ⟨rfl, rfl⟩ := Prod.mk.inj (ha.symm.trans eq)
    have sane : Sane event (d.answered i (.insert (event i)) (.error (.notUnique (some key)))
        d.state) :=
      while_cd.inv.push (by simp) while_cd.unended (by simp [Happening.who, none_d])
        (fun _ _ => none_d) (by simp [Happening.who, attempt?])
        (by simpa [taken_cons, accepted?] using records)
    refine ⟨allows sane, refused _ _ ?_ ⟨m, ?_, shares⟩ rfl⟩
    · simp [Affairs.answered, attempts_cons, attempt?, none_d]
    · exact taken_subset_append [_] _ mem
  · obtain ⟨rfl, rfl⟩ := Prod.mk.inj (ha.symm.trans eq)
    -- the number of the entry is one more than there are messages in its conversation
    have number : ∀ m ∈ taken d.history,
        m.conversationId = (entry (taken d.history) (event i)).conversationId →
        m.seqNo < (entry (taken d.history) (event i)).seqNo := fun m mem same => by
      have := records.ledger.seqNo_le mem
      rw [same] at this
      simp only [entry] at this ⊢
      omega
    have sane : Sane event (d.answered i (.insert (event i))
        (.ok (entry (taken d.history) (event i)))
        (d.state.add (event i) (entry (taken d.history) (event i)))) :=
      while_cd.inv.push (by simp) while_cd.unended (by simp [Happening.who, none_d])
        (fun _ _ => none_d)
        (by simpa only [Happening.who, attempt?, if_true, Option.some.injEq, Except.ok.injEq,
          forall_eq'] using number)
        (by simpa [taken_cons, accepted?] using records.add free)
    refine ⟨allows sane, accepted _ _ ⟨_, _, rfl⟩ ?_⟩
    simp [Affairs.answered, attempts_cons, attempt?]

/-- **A round** is sound if its insert is the first of the call whenever it comes to it, and
what follows a refused insert is sound. -/
theorem sound_round (untaken : ∀ m, .ok m ∉ attempts i c.history)
    (none : (∀ m ∈ taken c.history, ¬m.SharesKey (event i)) → attempts i c.history = [])
    {refused : Failure → Talk Outcome}
    (hrefused : (∀ m ∈ taken c.history, ¬m.SharesKey (event i)) → ∀ d failure,
      (∀ m, .ok m ∉ attempts i d.history) → (∃ m ∈ taken d.history, m.SharesKey (event i)) →
        failure.isNotUnique → (discipline event).Sound (calls event) i (refused failure) d) :
    (discipline event).Sound (calls event) i (round (event i) refused) c := by
  rw [round, Discipline.Sound, Dialogue.wp_bind]
  refine wp_findExisting untaken (fun d m since mem shares => ?_) fun d since free => ?_
  · refine sound_tell fun e since_e => ending_of_proper fun f since_f => ?_
    have since_cf := (since.trans since_e).trans since_f
    exact ⟨since_f.more (since_e.more mem), shares, fun m' => since_cf.same ▸ untaken m'⟩
  · refine sound_insert (since.same.trans (none free)) (fun e m own mem => ?_) (hrefused free)
    refine sound_tell fun f since_f => ending_of_proper fun g since_g => ⟨?_, own⟩
    rwa [(since_f.trans since_g).same]

/-- **Rounds that start with a key taken** find the message that has it. -/
theorem sound_rounds_of_shared (untaken : ∀ m, .ok m ∉ attempts i c.history)
    (shared : ∃ m ∈ taken c.history, m.SharesKey (event i)) (relookups left : Nat) :
    (discipline event).Sound (calls event) i (rounds (event i) relookups left) c := by
  have taken : ¬∀ m ∈ taken c.history, ¬m.SharesKey (event i) := by simpa using shared
  cases left <;> exact sound_round untaken (fun free => absurd free taken)
    fun free => absurd free taken

/-- **A call** is sound from its beginning on: an insert that lost a race has lost it to a
message that stays. -/
theorem sound_persist (none : attempts i c.history = []) :
    (discipline event).Sound (calls event) i (persist (event i)) c := by
  refine sound_round (by simp [none]) (fun _ => none) fun _ d failure untaken shared race => ?_
  rw [if_pos race]
  exact sound_tell fun e since => sound_rounds_of_shared (fun m => since.same ▸ untaken m)
    (shared.imp fun m mem => ⟨since.more mem.1, mem.2⟩) ..

/-- **All calls keep the discipline**, from a store without messages on. -/
theorem kept (event : ι → AcceptedEvent) : (discipline event).Kept (calls event) .empty where
  opening := {
    records := Memory.records_empty
    few := by simp [attempts]
    settled := by simp
    once := by simp [created]
    ordered := by simp }
  begins who c inv untouched := by
    have none : attempts who c.history = [] := by
      simpa [attempts] using attempts_append untouched []
    exact inv.push (x := .began who) (by simp) (fun _ mem => untouched _ mem rfl)
      (by simp [Happening.who, none]) (by simp [attempt?]) (by simp [attempt?])
      (by simpa [taken_cons, accepted?] using inv.records)
  sound who c _ untouched := by
    have none : attempts who c.history = [] := by
      simpa [attempts] using attempts_append untouched []
    exact sound_persist (by simpa [Affairs.began, attempts_cons, attempt?] using none)

/-! ### All calls together -/

variable {g : Gathering ι Store.api Telemetry (Except Failure Outcome) Memory}

/-- **The invariant holds in every run.** -/
theorem sane_of_reachable (h : (calls event).Reachable .empty g) : Sane event g.affairs :=
  ((kept event).sound_of_reachable h).1

/-- All answers to a call's inserts are one. -/
theorem Sane.eq_of_attempts (h : Sane event c) {a b : Except Failure Message}
    (ha : a ∈ attempts i c.history) (hb : b ∈ attempts i c.history) : a = b := by
  have few := h.few i
  have some := List.length_pos_of_mem ha
  obtain ⟨x, eq⟩ := List.length_eq_one_iff.1 (show (attempts i c.history).length = 1 by omega)
  rw [eq, List.mem_singleton] at ha hb
  rw [ha, hb]

/-- Once all calls that began have returned, **what they returned as new is what the store
took**. -/
theorem created_perm_taken (h : (calls event).Reachable .empty g) (settled : g.Settled) :
    (created g.affairs.history).Perm (taken g.affairs.history) := by
  have sane := sane_of_reachable h
  refine (List.perm_ext_iff_of_nodup sane.once sane.records.ledger.nodup).2 fun m => ?_
  constructor
  · intro mem
    obtain ⟨i, mem⟩ := mem_created.1 mem
    obtain ⟨_, mem⟩ := mem_attempts.1 (sane.settled i _ mem).1
    exact mem_taken.2 ⟨i, _, mem⟩
  · intro mem
    obtain ⟨i, e, mem⟩ := mem_taken.1 mem
    have accepted : .ok m ∈ attempts i g.affairs.history := mem_attempts.2 ⟨e, mem⟩
    obtain ⟨result, ended⟩ := h.ended_of_settled settled mem
    have proper := sane.settled i _ ended
    match result, proper with
    | .ok ⟨_, true⟩, proper => exact absurd accepted (proper.2.2 m)
    | .ok ⟨m', false⟩, proper =>
      cases sane.eq_of_attempts accepted proper.1
      exact mem_created.2 ⟨i, ended⟩

/-- **Calls at the same time get along**, in every run from a store without messages on. No
call fails, and none inserts more than once, so that it loses one race at most. Two calls that
return messages with a key in common as new are one call. A new message is a row of the store
with what the event says, a duplicate one that shares a key with the event. Once all calls that
began have returned, each conversation is numbered `1, 2, …` up to its counter, which is how
many of its messages were returned as new. A call that still does something after another one
returned a new message of the same conversation gets a larger number. -/
theorem concurrent_calls_agree (event : ι → AcceptedEvent)
    (h : (calls event).Reachable .empty g) :
    (∀ i result, .ended i result ∈ g.affairs.history → ∃ outcome, result = .ok outcome) ∧
    (∀ i, (attempts i g.affairs.history).length ≤ 1) ∧
    (∀ i j m m', .ended i (.ok ⟨m, false⟩) ∈ g.affairs.history →
      .ended j (.ok ⟨m', false⟩) ∈ g.affairs.history → ¬m.Apart m' → i = j) ∧
    (∀ i m, .ended i (.ok ⟨m, false⟩) ∈ g.affairs.history →
      m ∈ g.affairs.state.rows ∧ ∃ id seqNo, m = messageOf (event i) id seqNo) ∧
    (∀ i m, .ended i (.ok ⟨m, true⟩) ∈ g.affairs.history →
      m ∈ g.affairs.state.rows ∧ m.SharesKey (event i)) ∧
    (g.Settled → ∀ id,
      (g.affairs.state.conversation id).map (·.seqNo) =
          (List.range (ofConversation id (created g.affairs.history)).length).map
            (fun n : Nat => (n : Int) + 1) ∧
        g.affairs.state.lastSeq id =
          (ofConversation id (created g.affairs.history)).length) ∧
    (∀ i j x m m', [x, .ended i (.ok ⟨m, false⟩)].Sublist g.affairs.history →
      x.who = j → (∀ result, x ≠ .ended j result) →
      .ended j (.ok ⟨m', false⟩) ∈ g.affairs.history → m.conversationId = m'.conversationId →
        m.seqNo < m'.seqNo) := by
  have sane := sane_of_reachable h
  have inTaken : ∀ {i m}, .ok m ∈ attempts i g.affairs.history → m ∈ taken g.affairs.history :=
    fun mem => mem_taken.2 ⟨_, mem_attempts.1 mem⟩
  refine ⟨fun i result mem => ?_, sane.few, fun i j m m' mem mem' same => ?_,
    fun i m mem => ?_, fun i m mem => ?_, fun settled id => ?_, ?_⟩
  · have proper := sane.settled i result mem
    match result, proper with
    | .ok outcome, _ => exact ⟨outcome, rfl⟩
  · have own := (sane.settled i _ mem).1
    have own' := (sane.settled j _ mem').1
    cases sane.records.ledger.eq_of_not_apart (inTaken own) (inTaken own') same
    exact eq_of_mem_attempts sane.records.ledger.nodup own own'
  · have proper := sane.settled i _ mem
    exact ⟨sane.records.mem_rows.2 (inTaken proper.1), proper.2⟩
  · have proper := sane.settled i _ mem
    exact ⟨sane.records.mem_rows.2 proper.1, proper.2.1⟩
  · have count : (ofConversation id (created g.affairs.history)).length =
        (ofConversation id (taken g.affairs.history)).length :=
      ((created_perm_taken h settled).filter _).length_eq
    rw [count, sane.records.conversation_eq]
    exact ⟨sane.records.ledger.seqNos id, sane.records.lastSeq_eq id⟩
  · rintro i j x m m' sub rfl notEnd mem same
    exact sane.ordered i x m m' notEnd sub (sane.settled _ _ mem).1 same

/-- **A race**: two calls look for one event, and find nothing; the insert of the one is taken,
that of the other refused, and the other looks again. -/
theorem race_for_one_event :
    ∃ (event : AcceptedEvent)
      (g : Gathering Bool Store.api Telemetry (Except Failure Outcome) Memory),
      (calls fun _ => event).Reachable .empty g ∧ g.Settled ∧
        .ended false (.ok ⟨entry [] event, false⟩) ∈ g.affairs.history ∧
        .ended true (.ok ⟨entry [] event, true⟩) ∈ g.affairs.history ∧
        (∀ i, (attempts i g.affairs.history).length ≤ 1) ∧
        g.affairs.state.lastSeq event.conversationId =
          (ofConversation event.conversationId (created g.affairs.history)).length := by
  let event : AcceptedEvent := ⟨"e1", none, "c1", "alice", none, "hello", none, .epoch⟩
  let stored := Memory.empty.add event (entry [] event)
  have missing : Memory.empty.answer (.findByEventId event.eventId) = (.ok none, .empty) := by
    simp [Memory.answer, Memory.findByEventId, Memory.empty]
  have taken : Memory.empty.answer (.insert event) = (.ok (entry [] event), stored) :=
    Memory.insert_empty event
  have refused : stored.answer (.insert event) =
      (.error (.notUnique (some Store.eventIdKey)), stored) := by
    simp [Memory.answer, Memory.insert, Memory.conflict?, Memory.add, stored]
  have found : stored.answer (.findByEventId event.eventId) =
      (.ok (some (entry [] event)), stored) := by
    simp [Memory.answer, Memory.findByEventId, Memory.add, stored]
  have opening : (calls fun _ : Bool => event).Reachable .empty (.opening .empty) := .opening
  have run := opening.step false (.begin rfl)
    |>.step true (.begin rfl)
    |>.step false (.ask rfl missing)
    |>.step true (.ask rfl missing)
    |>.step false (.ask rfl taken)
    |>.step true (.ask rfl refused)
    |>.step false (.tell rfl)
    |>.step true (.tell rfl)
    |>.step true (.ask rfl found)
    |>.step true (.tell rfl)
    |>.step true (.finish rfl)
    |>.step false (.finish rfl)
  obtain ⟨g, run, settled, new, old⟩ : ∃ g, (calls fun _ : Bool => event).Reachable .empty g ∧
      g.Settled ∧ .ended false (.ok ⟨entry [] event, false⟩) ∈ g.affairs.history ∧
        .ended true (.ok ⟨entry [] event, true⟩) ∈ g.affairs.history := by
    refine ⟨_, run, fun who rest => ?_, .head _, .tail _ (.head _)⟩
    cases who
    · exact (by simp : Progress.finished _ ≠ Progress.talking rest)
    · exact (by simp : Progress.finished _ ≠ Progress.talking rest)
  obtain ⟨_, few, _, _, _, numbered, _⟩ := concurrent_calls_agree _ run
  exact ⟨event, g, run, settled, new, old, few, (numbered settled _).2⟩

end MessageIntake.Persistence
