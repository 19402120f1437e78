import MessageIntake.Persistence
import MessageIntake.Proofs.Passage
/-!
# The protocol of storing an event

What storing an event asks of a store of which nothing is known: each question may be answered with
anything, whatever was answered before. The calls come in rounds. A round looks for the event, by
`eventId` and then by `clientMsgId`, and inserts it if neither was found; only an insert that lost a
race for a key is followed by another round, and at most twice.

Main statement: the calls, and what storing comes to, follow this protocol
(`calls_follow_protocol`). A failure that no look was answered with, and that is a lost race, is
therefore returned after three inserts only; a look that fails so ends the matter at once
(`lost_race_without_insert`).
-/

namespace MessageIntake.Persistence

open Dialogue (Passage Exchange exchanges exchanges_told exchanges_answered exchanges_append
  passage_done_iff passage_tell_iff passage_ask_iff passage_bind_iff)

variable {σ : Type} {W : World Store.api σ} {s s' : σ}
  {events : List (Dialogue.Event Store.api Telemetry σ)} {event : AcceptedEvent}

/-- **A call** of the store with its answer. -/
abbrev Call := Exchange Store.api

/-- The call is an insert. -/
def isInsert (c : Call) : Bool :=
  match c.question with
  | .insert _ => true
  | _ => false

/-- **A call that settles the matter**: a look that finds a row or fails, and an insert unless it
loses a race. -/
def Settling : Call → Prop
  | ⟨.findByEventId _, answer⟩ => answer ≠ .ok none
  | ⟨.findByClientMsgId _, answer⟩ => answer ≠ .ok none
  | ⟨.insert _, answer⟩ => ∀ failure, answer = .error failure → failure.isNotUnique = false
  | ⟨.lastSeq _, _⟩ => False

/-! ### Rounds -/

/-- **A round**: what the look by `eventId` was answered, and what the look by `clientMsgId` and the
insert were, if they were made. -/
structure Round where
  byEventId : Except Failure (Option Message)
  byClientMsgId : Option (Except Failure (Option Message))
  insert : Option (Except Failure Message)

namespace Round

/-- What looking came to. -/
def looked (r : Round) : Except Failure (Option Message) := r.byClientMsgId.getD r.byEventId

/-- The insert lost a race for a key. -/
def Lost (r : Round) : Prop :=
  ∃ failure, r.insert = some (.error failure) ∧ failure.isNotUnique = true

/-- **The calls of a round** in their order. -/
def calls (event : AcceptedEvent) (r : Round) : List Call :=
  ⟨.findByEventId event.eventId, r.byEventId⟩ ::
    ((event.clientMsgId.bind fun id =>
        r.byClientMsgId.map fun answer => (⟨.findByClientMsgId id, answer⟩ : Call)).toList ++
      (r.insert.map fun answer => (⟨.insert event, answer⟩ : Call)).toList)

/-- **A proper round** looks by `clientMsgId` just if the event has one and its `eventId` was not
found, and inserts just if nothing was found. -/
structure Proper (event : AcceptedEvent) (r : Round) : Prop where
  byClientMsgId : r.byClientMsgId.isSome ↔ r.byEventId = .ok none ∧ event.clientMsgId.isSome
  insert : r.insert.isSome ↔ r.looked = .ok none

/-- **How a round may be the last**, `left` more being allowed. -/
inductive Ends (r : Round) (left : Nat) : Except Failure Outcome → Prop where
  | failed {failure : Failure} (looked : r.looked = .error failure) : Ends r left (.error failure)
  | found {row : Message} (looked : r.looked = .ok (some row)) : Ends r left (.ok ⟨row, true⟩)
  | created {row : Message} (inserted : r.insert = some (.ok row)) : Ends r left (.ok ⟨row, false⟩)
  | refused {failure : Failure} (inserted : r.insert = some (.error failure))
      (final : left = 0 ∨ failure.isNotUnique = false) : Ends r left (.error failure)

variable {r : Round} {left : Nat} {result : Except Failure Outcome}

/-- Nothing is inserted unless both looks found nothing. -/
theorem Proper.insert_eq_none (proper : r.Proper event) (looked : r.looked ≠ .ok none) :
    r.insert = none :=
  Option.not_isSome_iff_eq_none.1 fun made => looked (proper.insert.1 made)

theorem Proper.looked_of_insert (proper : r.Proper event) {answer : Except Failure Message}
    (inserted : r.insert = some answer) : r.looked = .ok none :=
  proper.insert.1 (inserted ▸ rfl)

/-- **What the last round comes to** is read off its looks and its insert. -/
theorem Ends.result_iff (ends : r.Ends left result) (proper : r.Proper event) :
    (∀ failure, result = .error failure ↔
      r.looked = .error failure ∨ r.insert = some (.error failure)) ∧
    (∀ row, result = .ok ⟨row, true⟩ ↔ r.looked = .ok (some row)) ∧
    ∀ row, result = .ok ⟨row, false⟩ ↔ r.insert = some (.ok row) := by
  cases ends with
  | failed looked =>
    have none := proper.insert_eq_none (by simp [looked])
    simp [looked, none]
  | found looked =>
    have none := proper.insert_eq_none (by simp [looked])
    simp [looked, none]
  | created inserted | refused inserted =>
    have looked := proper.looked_of_insert inserted
    simp [looked, inserted]

/-- A last round that lost its race is the last that is allowed. -/
theorem Ends.eq_zero_of_lost (ends : r.Ends left result) (proper : r.Proper event)
    (lost : r.Lost) : left = 0 := by
  obtain ⟨failure, inserted, notUnique⟩ := lost
  have looked := proper.looked_of_insert inserted
  cases ends with
  | failed failed => simp [looked] at failed
  | found found => simp [looked] at found
  | created created => simp [inserted] at created
  | refused refused final =>
    obtain rfl : failure = _ := by simpa [inserted] using refused
    exact final.resolve_right (by simp [notUnique])

/-- A round has three calls at most, and one of them inserts at most. -/
theorem length_calls_le (event : AcceptedEvent) (r : Round) :
    (r.calls event).length ≤ 3 ∧ (r.calls event).countP isInsert ≤ 1 := by
  unfold calls
  cases event.clientMsgId <;> cases r.byClientMsgId <;> cases r.insert <;>
    simp [isInsert, List.countP_cons]

/-- **Only the last call of a round** can settle the matter. -/
theorem Proper.pairwise_calls (proper : r.Proper event) :
    (r.calls event).Pairwise fun c _ => ¬Settling c := by
  have looks : (∃ answer, r.byClientMsgId = some answer) → r.byEventId = .ok none := by
    rintro ⟨answer, made⟩
    exact (proper.byClientMsgId.1 (made ▸ rfl)).1
  have inserts : (∃ answer, r.insert = some answer) → r.looked = .ok none := by
    rintro ⟨answer, made⟩
    exact proper.looked_of_insert made
  revert looks inserts
  unfold calls looked
  cases event.clientMsgId <;> cases r.byClientMsgId <;> cases r.insert <;>
    simp +contextual [Settling]

/-- A round that lost its race settles nothing. -/
theorem Proper.not_settling (proper : r.Proper event) (lost : r.Lost) :
    ∀ c ∈ r.calls event, ¬Settling c := by
  obtain ⟨failure, inserted, notUnique⟩ := lost
  have looked := proper.looked_of_insert inserted
  have byEventId : r.byEventId = .ok none := by
    cases made : r.byClientMsgId with
    | none => simpa [Round.looked, made] using looked
    | some answer => exact (proper.byClientMsgId.1 (made ▸ rfl)).1
  have byClientMsgId : ∀ answer, r.byClientMsgId = some answer → answer = .ok none := by
    intro answer made
    simpa [Round.looked, made] using looked
  intro c mem
  simp only [calls, List.mem_cons, List.mem_append, Option.mem_toList, Option.bind_eq_some_iff,
    Option.map_eq_some_iff, inserted, Option.some.injEq] at mem
  rcases mem with rfl | ⟨id, -, answer, made, rfl⟩ | ⟨answer, rfl, rfl⟩
  · simp [Settling, byEventId]
  · simp [Settling, byClientMsgId answer made]
  · simp [Settling, notUnique]

end Round

/-! ### Rounds one after the other -/

/-- **Rounds that follow each other**, at most `left` of them after the first. -/
inductive Runs (event : AcceptedEvent) : Nat → List Round → Except Failure Outcome → Prop where
  | last {left : Nat} {r : Round} {result : Except Failure Outcome} (proper : r.Proper event)
      (ends : r.Ends left result) : Runs event left [r] result
  | again {left : Nat} {r : Round} {later : List Round} {result : Except Failure Outcome}
      (proper : r.Proper event) (lost : r.Lost) (runs : Runs event left later result) :
      Runs event (left + 1) (r :: later) result

namespace Runs

variable {left : Nat} {rounds : List Round} {result : Except Failure Outcome}

theorem proper (h : Runs event left rounds result) : ∀ r ∈ rounds, r.Proper event := by
  induction h with
  | last proper ends => simpa using proper
  | again proper lost runs ih => simpa using ⟨proper, ih⟩

theorem length_pos (h : Runs event left rounds result) : 0 < rounds.length := by
  cases h <;> simp

theorem length_le (h : Runs event left rounds result) : rounds.length ≤ left + 1 := by
  induction h with
  | last proper ends => simp
  | again proper lost runs ih => simpa using ih

/-- **Another round** follows just if the insert lost a race and another round is allowed. -/
theorem further_iff (h : Runs event left rounds result) {i : Nat} {r : Round}
    (found : rounds[i]? = some r) : i + 1 < rounds.length ↔ i < left ∧ r.Lost := by
  induction h generalizing i with
  | @last left r' result proper ends =>
    obtain ⟨lt, rfl⟩ := List.getElem?_eq_some_iff.1 found
    obtain rfl : i = 0 := by simpa using lt
    constructor
    · intro more
      simp at more
    · rintro ⟨allowed, lost⟩
      exact absurd (ends.eq_zero_of_lost proper lost) (by omega)
  | again proper lost runs ih =>
    cases i with
    | zero =>
      obtain rfl := Option.some.inj found
      have := runs.length_pos
      simp [lost, this]
    | succ i =>
      have := ih (by simpa using found)
      simpa using this

/-- The last round ends the matter. -/
theorem exists_last (h : Runs event left rounds result) :
    ∃ last before, rounds = before ++ [last] ∧ (∀ r ∈ before, r.Lost) ∧
      last.Ends (left - before.length) result := by
  induction h with
  | last proper ends => exact ⟨_, [], rfl, by simp, ends⟩
  | @again left r later result proper lost runs ih =>
    obtain ⟨last, before, rfl, all, ends⟩ := ih
    refine ⟨last, r :: before, rfl, by simpa using ⟨lost, all⟩, ?_⟩
    rwa [List.length_cons, Nat.add_sub_add_right]

/-- **A call that settles the matter is the last one.** -/
theorem pairwise_calls (h : Runs event left rounds result) :
    (rounds.flatMap (Round.calls event)).Pairwise fun c _ => ¬Settling c := by
  induction h with
  | last proper ends => simpa using proper.pairwise_calls
  | again proper lost runs ih =>
    rw [List.flatMap_cons, List.pairwise_append]
    exact ⟨proper.pairwise_calls, ih, fun c mem _ _ => proper.not_settling lost c mem⟩

/-- So there are three calls at most for each round, and one insert at most. -/
theorem calls_le (rounds : List Round) :
    (rounds.flatMap (Round.calls event)).length ≤ rounds.length * 3 ∧
      (rounds.flatMap (Round.calls event)).countP isInsert ≤ rounds.length := by
  induction rounds with
  | nil => simp
  | cons r later ih =>
    have := r.length_calls_le event
    simp only [List.flatMap_cons, List.length_append, List.countP_append, List.length_cons]
    omega

end Runs

/-! ### The way through the rounds -/

/-- **Looking for an event** makes the looks of a round. -/
theorem looks_of_findExisting {found : Except Failure (Option Message)}
    (h : Passage W (findExisting event) s events found s') :
    ∃ r : Round, r.insert = none ∧ r.looked = found ∧ exchanges events = r.calls event ∧
      (r.byClientMsgId.isSome ↔ r.byEventId = .ok none ∧ event.clientMsgId.isSome) := by
  obtain ⟨a, mid, later, rfl, asked, rest⟩ := passage_ask_iff.1 h
  match a with
  | .error failure =>
    obtain ⟨rfl, rfl, rfl⟩ := passage_done_iff.1 rest
    exact ⟨⟨.error failure, none, none⟩, rfl, rfl, by simp [Round.calls], by simp⟩
  | .ok (some row) =>
    obtain ⟨rfl, rfl, rfl⟩ := passage_done_iff.1 rest
    exact ⟨⟨.ok (some row), none, none⟩, rfl, rfl, by simp [Round.calls], by simp⟩
  | .ok none =>
    cases carried : event.clientMsgId with
    | none =>
      simp only [carried] at rest
      obtain ⟨rfl, rfl, rfl⟩ := passage_done_iff.1 rest
      exact ⟨⟨.ok none, none, none⟩, rfl, rfl, by simp [Round.calls], by simp⟩
    | some id =>
      simp only [carried] at rest
      obtain ⟨a, next, later, rfl, asked, ends⟩ := passage_ask_iff.1 rest
      obtain ⟨rfl, rfl, rfl⟩ := passage_done_iff.1 ends
      exact ⟨⟨.ok none, some found, none⟩, rfl, rfl, by simp [Round.calls, carried], by simp⟩

/-- **A round** ends the matter, or its insert fails and what follows then is done. -/
theorem of_round_of_follows {left : Nat} {result : Except Failure Outcome}
    {refused : Failure → Talk Outcome}
    (follows : ∀ {r : Round} {failure : Failure} {m : σ}
      {events : List (Dialogue.Event Store.api Telemetry σ)},
      r.Proper event → r.insert = some (.error failure) →
      Passage W (refused failure) m events result s' →
      ∃ later, exchanges events = later.flatMap (Round.calls event) ∧
        Runs event left (r :: later) result)
    (h : Passage W (round event refused) s events result s') :
    ∃ rounds, exchanges events = rounds.flatMap (Round.calls event) ∧
      Runs event left rounds result := by
  obtain ⟨first, second, found, mid, rfl, looked, rest⟩ := passage_bind_iff.1 h
  obtain ⟨r, uninserted, rfl, calls, client⟩ := looks_of_findExisting looked
  have proper (none : r.looked ≠ .ok none) : r.Proper event :=
    ⟨client, by simp [uninserted, none]⟩
  cases found : r.looked with
  | error failure =>
    rw [found] at rest
    obtain ⟨rfl, rfl, rfl⟩ := passage_done_iff.1 rest
    exact ⟨[r], by simp [calls], .last (proper (by simp [found])) (.failed found)⟩
  | ok existing =>
    rw [found] at rest
    cases existing with
    | some row =>
      obtain ⟨later, rfl, noted⟩ := passage_tell_iff.1 rest
      obtain ⟨rfl, rfl, rfl⟩ := passage_done_iff.1 noted
      exact ⟨[r], by simp [calls], .last (proper (by simp [found])) (.found found)⟩
    | none =>
      obtain ⟨a, next, later, rfl, asked, inserted⟩ := passage_ask_iff.1 rest
      -- the round with its insert
      let r' : Round := { r with insert := some a }
      have proper' : r'.Proper event := ⟨client, by simp [r', Round.looked, ← found]⟩
      have calls' : exchanges first ++ [⟨.insert event, a⟩] = r'.calls event := by
        simp [calls, r', Round.calls, uninserted]
      cases a with
      | ok row =>
        obtain ⟨later, rfl, noted⟩ := passage_tell_iff.1 inserted
        obtain ⟨rfl, rfl, rfl⟩ := passage_done_iff.1 noted
        exact ⟨[r'], by simp [← calls'], .last proper' (.created rfl)⟩
      | error failure =>
        obtain ⟨rounds, same, runs⟩ := follows proper' rfl inserted
        exact ⟨r' :: rounds, by simp [← calls', same], runs⟩

/-- **The rounds** that are made follow each other. -/
theorem runs_of_rounds {relookups left : Nat} {result : Except Failure Outcome}
    (h : Passage W (rounds event relookups left) s events result s') :
    ∃ rounds, exchanges events = rounds.flatMap (Round.calls event) ∧
      Runs event left rounds result := by
  -- on the rounds that are left: after a lost race the next of them are made
  induction left generalizing relookups s events with
  | zero =>
    refine of_round_of_follows (fun {r failure m events} proper inserted ends => ?_) h
    obtain ⟨rfl, rfl, rfl⟩ := passage_done_iff.1 ends
    exact ⟨[], rfl, .last proper (.refused inserted (.inl rfl))⟩
  | succ left ih =>
    refine of_round_of_follows (fun {r failure m events} proper inserted ends => ?_) h
    split at ends
    · next notUnique =>
      obtain ⟨later, rfl, noted⟩ := passage_tell_iff.1 ends
      obtain ⟨rounds, same, runs⟩ := ih noted
      exact ⟨rounds, same, .again proper ⟨failure, inserted, notUnique⟩ runs⟩
    · next other =>
      obtain ⟨rfl, rfl, rfl⟩ := passage_done_iff.1 ends
      exact ⟨[], rfl, .last proper (.refused inserted (.inr (Bool.eq_false_iff.2 other)))⟩

/-! ### The protocol -/

/-- **The protocol** of storing an event: which calls are made, in which rounds, and what storing
comes to. -/
structure Follows (event : AcceptedEvent) (calls : List Call) (rounds : List Round) (last : Round)
    (result : Except Failure Outcome) : Prop where
  calls_eq : calls = rounds.flatMap (Round.calls event)
  last_eq : rounds.getLast? = some last
  proper : ∀ r ∈ rounds, r.Proper event
  length_le : rounds.length ≤ 3
  further_iff : ∀ i r, rounds[i]? = some r → (i + 1 < rounds.length ↔ i < 2 ∧ r.Lost)
  error_iff : ∀ failure, result = .error failure ↔
    last.looked = .error failure ∨ last.insert = some (.error failure)
  found_iff : ∀ row, result = .ok ⟨row, true⟩ ↔ last.looked = .ok (some row)
  created_iff : ∀ row, result = .ok ⟨row, false⟩ ↔ last.insert = some (.ok row)
  notUnique : ∀ failure, result = .error failure → failure.isNotUnique = true →
    last.looked = .error failure ∨ rounds.length = 3 ∧ ∀ r ∈ rounds, r.Lost
  calls_le : calls.length ≤ 9
  inserts_le : calls.countP isInsert ≤ 3
  settled : calls.Pairwise fun c _ => ¬Settling c

/-- **Rounds that follow each other keep to the protocol.** -/
theorem Runs.follows {rounds : List Round} {result : Except Failure Outcome}
    (h : Runs event maxRelookups rounds result) :
    ∃ last, Follows event (rounds.flatMap (Round.calls event)) rounds last result := by
  have few : rounds.length ≤ 3 := h.length_le
  have count : (rounds.flatMap (Round.calls event)).length ≤ rounds.length * 3 ∧ _ :=
    calls_le rounds
  have settled := h.pairwise_calls
  have further {i : Nat} {r : Round} (found : rounds[i]? = some r) := h.further_iff found
  have all := h.proper
  obtain ⟨last, before, rfl, lost, ends⟩ := h.exists_last
  have proper := all last (by simp)
  obtain ⟨error_iff, found_iff, created_iff⟩ := ends.result_iff proper
  refine ⟨last, rfl, by simp, all, few, fun i r => further, error_iff, found_iff, created_iff,
    fun failure fails notUnique => ?_, by omega, by omega, settled⟩
  refine ((error_iff failure).1 fails).imp_right fun inserted => ?_
  -- the last insert lost its race as well, and so no further round was allowed
  have lastLost : last.Lost := ⟨failure, inserted, notUnique⟩
  have left := ends.eq_zero_of_lost proper lastLost
  have length : (before ++ [last]).length = before.length + 1 := by simp
  refine ⟨?_, fun r mem => ?_⟩
  · rw [maxRelookups] at left
    omega
  · rcases List.mem_append.1 mem with mem | mem
    · exact lost r mem
    · rwa [List.mem_singleton.1 mem]

/-- **Storing an event follows its protocol against any store**: it comes to an end if each question
has some answer, and wherever it ends, its calls and what it came to are as the protocol says. -/
theorem calls_follow_protocol (total : ∀ q s, ∃ a s', W q s a s') (event : AcceptedEvent) (s : σ) :
    (∃ events result s', Passage W (persist event) s events result s') ∧
      ∀ events result s', Passage W (persist event) s events result s' →
        ∃ rounds last, Follows event (exchanges events) rounds last result := by
  refine ⟨Dialogue.exists_passage total _ _, fun events result s' h => ?_⟩
  obtain ⟨rounds, same, runs⟩ := runs_of_rounds h
  obtain ⟨last, follows⟩ := runs.follows
  exact ⟨rounds, last, same ▸ follows⟩

/-- **An event that loses three races** to a writer whose row no look shows: nine calls are made,
and the last refusal is returned. -/
theorem three_lost_races :
    ∃ (W : World Store.api Unit) (event : AcceptedEvent)
      (events : List (Dialogue.Event Store.api Telemetry Unit)) (rounds : List Round)
      (last : Round),
      (∀ q s, ∃ a s', W q s a s') ∧
        Passage W (persist event) () events (.error (.notUnique none)) () ∧
        Follows event (exchanges events) rounds last (.error (.notUnique none)) ∧
        (exchanges events).length = 9 ∧ (exchanges events).countP isInsert = 3 := by
  let W : World Store.api Unit := fun q _ a _ =>
    match q, a with
    | .findByEventId _, a => a = .ok none
    | .findByClientMsgId _, a => a = .ok none
    | .insert _, a => a = .error (.notUnique none)
    | .lastSeq _, a => a = .ok 0
  let event : AcceptedEvent := ⟨"e1", some "m1", "c1", "alice", none, "hello", none, .epoch⟩
  have total : ∀ q s, ∃ a s', W q s a s' := by
    rintro (_ | _ | _ | _) _
    all_goals exact ⟨_, (), rfl⟩
  have byEventId : W (.findByEventId "e1") () (.ok none) () := rfl
  have byClientMsgId : W (.findByClientMsgId "m1") () (.ok none) () := rfl
  have refused : W (.insert event) () (.error (.notUnique none)) () := rfl
  clear_value W
  have passage : ∃ events, Passage W (persist event) () events (.error (.notUnique none)) () ∧
      (exchanges events).length = 9 ∧ (exchanges events).countP isInsert = 3 :=
    ⟨_, .ask byEventId <| .ask byClientMsgId <| .ask refused <| .tell <|
      .ask byEventId <| .ask byClientMsgId <| .ask refused <| .tell <|
      .ask byEventId <| .ask byClientMsgId <| .ask refused .done, rfl, rfl⟩
  obtain ⟨events, passage, nine, three⟩ := passage
  obtain ⟨rounds, last, follows⟩ := (calls_follow_protocol total event ()).2 _ _ _ passage
  exact ⟨W, event, events, rounds, last, total, passage, follows, nine, three⟩

/-- **A look that fails with a lost race**: it is returned at once, and nothing was inserted. So it
is not so that only three inserts that fail lead to such a failure. -/
theorem lost_race_without_insert :
    ¬∀ (W : World Store.api Unit) (event : AcceptedEvent)
      (events : List (Dialogue.Event Store.api Telemetry Unit)) (result : Except Failure Outcome),
      (∀ q s, ∃ a s', W q s a s') → Passage W (persist event) () events result () →
        ∀ failure, result = .error failure → failure.isNotUnique = true →
          (exchanges events).countP isInsert = 3 := by
  intro three
  let W : World Store.api Unit := fun _ _ a _ => a = .error (.notUnique none)
  let event : AcceptedEvent := ⟨"e1", none, "c1", "alice", none, "hello", none, .epoch⟩
  have total : ∀ q s, ∃ a s', W q s a s' := fun _ _ => ⟨_, (), rfl⟩
  have failed : W (.findByEventId "e1") () (.error (.notUnique none)) () := rfl
  clear_value W
  have passage : ∃ events, Passage W (persist event) () events (.error (.notUnique none)) () ∧
      (exchanges events).countP isInsert = 0 :=
    ⟨_, .ask failed .done, rfl⟩
  obtain ⟨events, passage, uninserted⟩ := passage
  have inserted := three W event events _ total passage _ rfl rfl
  rw [uninserted] at inserted
  cases inserted

end MessageIntake.Persistence
