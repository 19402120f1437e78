import MessageIntake.Proofs.Gathering
import MessageIntake.Worker
/-!
# The order of acknowledgements

To acknowledge a record is to give up all that came before it in its partition. A worker runs
over a transport that delivers each partition in the order of its offsets, and delivers a
record again only after its rewind succeeded, as the next one of its partition. Nothing else is
taken of the surroundings: whatever is stored or not, published or not, acknowledged or not,
rewound or not, and however the stop signal goes.

A worker does acknowledge past a record that it left: one to which the rewind failed
(`acknowledges_past_failed_rewind`), or whose wait for the next delivery was cut short by a stop
signal that was then taken back. Past any other record it does not (`acked_iff_not_left`).
-/

namespace MessageIntake

/-- The partition that a record is from. -/
def Record.place (r : Record) : String × Int := (r.topic, r.partition)

/-- **Where a record stands** in the transport's log; its deliveries have this in common. -/
def Record.slot (r : Record) : (String × Int) × Int := (r.place, r.offset)

namespace Worker

open Function (update update_self update_of_ne)

/-! ### A transport that keeps the order -/

/-- **A feed of records**: the last offset that each partition delivered, and the record that it
delivers next if it was rewound. -/
structure Feed where
  last : String × Int → Option Int
  rewound : String × Int → Option Record

namespace Feed

/-- A feed that has delivered nothing. -/
def fresh : Feed := ⟨fun _ => none, fun _ => none⟩

/-- **A record may be delivered**: the one to which its partition was rewound, or else one of a
larger offset than the last. -/
def Offers (f : Feed) (r : Record) : Prop :=
  match f.rewound r.place with
  | some again => r.offset = again.offset
  | none => ∀ o, f.last r.place = some o → o < r.offset

/-- The feed after a delivery. -/
def deliver (f : Feed) (r : Record) : Feed where
  last := update f.last r.place (some r.offset)
  rewound := update f.rewound r.place none

/-- The feed after a partition was rewound to a record. -/
def rewind (f : Feed) (r : Record) : Feed :=
  { f with rewound := update f.rewound r.place (some r) }

variable (f : Feed) (r : Record) {p : String × Int}

@[simp] theorem last_deliver : (f.deliver r).last r.place = some r.offset := update_self ..

@[simp] theorem rewound_deliver : (f.deliver r).rewound r.place = none := update_self ..

theorem last_deliver_of_ne (ne : p ≠ r.place) : (f.deliver r).last p = f.last p :=
  update_of_ne ne ..

theorem rewound_deliver_of_ne (ne : p ≠ r.place) : (f.deliver r).rewound p = f.rewound p :=
  update_of_ne ne ..

@[simp] theorem rewound_rewind : (f.rewind r).rewound r.place = some r := update_self ..

theorem rewound_rewind_of_ne (ne : p ≠ r.place) : (f.rewind r).rewound p = f.rewound p :=
  update_of_ne ne ..

end Feed

/-- **A worker over a feed.** All answers are open but for what is received, and a rewind is one
only if it succeeds. -/
def working (policy : RetryPolicy) (id limit : Nat) :
    Setting Unit api Telemetry (Option WorkerSummary) Feed where
  part _ := run policy id limit
  answers _ question f answer f' :=
    match question, answer with
    | .receive, .record r => f.Offers r ∧ f' = f.deliver r
    | .nack r, .ok () => f' = f.rewind r
    | _, _ => f' = f
  hears _ _ f := f

/-! ### What a history tells -/

/-- What happened in a worker's run. -/
abbrev History := List (Happening Unit api (Option WorkerSummary))

/-- The records that were delivered. -/
def delivered : History → List Record
  | [] => []
  | .answered _ .receive (.record r) :: h => r :: delivered h
  | _ :: h => delivered h

/-- The records that the worker asked to acknowledge, whatever came of it. -/
def acked : History → List Record
  | [] => []
  | .answered _ (.ack r) _ :: h => r :: acked h
  | _ :: h => acked h

/-- The record that was received last, if the last thing received was one. -/
def atHand : History → Option Record
  | [] => none
  | .answered _ .receive (.record r) :: _ => some r
  | .answered _ .receive _ :: _ => none
  | _ :: h => atHand h

/-- **The records that were left**: a rewind to them failed, or their wait for the next
delivery was cut short. -/
def left : History → List Record
  | [] => []
  | .answered _ (.nack r) (.error _) :: h => r :: left h
  | .answered _ (.rest _) .interrupted :: h => (atHand h).toList ++ left h
  | _ :: h => left h

/-- A record stands where one of a list does. -/
def Among (x : Record) (l : List Record) : Prop := ∃ y ∈ l, y.slot = x.slot

theorem among_cons {x y : Record} {l : List Record} :
    Among x (y :: l) ↔ y.slot = x.slot ∨ Among x l := by
  simp [Among]

theorem Among.congr {x y : Record} {l : List Record} (same : x.slot = y.slot) :
    Among x l ↔ Among y l := by
  rw [Among, Among, same]

/-- **Acknowledgements in order**: when one is asked, of the records that its partition
delivered at smaller offsets just those that were left have not been acknowledged. -/
def InOrder : History → Prop
  | [] => True
  | .answered _ (.ack r) _ :: h =>
    (∀ x ∈ delivered h, x.place = r.place → x.offset < r.offset →
      (Among x (acked h) ↔ ¬Among x (left h))) ∧ InOrder h
  | _ :: h => InOrder h

/-- **A record is open**: it is being worked on, or is the next one of its partition. -/
def Open (hand : Option Record) (f : Feed) (x : Record) : Prop :=
  (∃ r ∈ hand, r.slot = x.slot) ∨ ∃ r ∈ f.rewound x.place, r.slot = x.slot

/-- A moment of a worker's run. -/
abbrev Moment := Affairs Unit api (Option WorkerSummary) Feed

/-- **The invariant of a worker's run**, `hand` being the record that is worked on. Each record
that was delivered was acknowledged, was left or is open, and only one of these. -/
structure Tidy (hand : Option Record) (c : Moment) : Prop where
  received : ∀ r ∈ hand, atHand c.history = some r
  last : ∀ x ∈ delivered c.history, ∃ o ∈ c.state.last x.place, x.offset ≤ o
  settled : ∀ x, Among x (acked c.history) ∨ Among x (left c.history) →
    Among x (delivered c.history)
  accounted : ∀ x ∈ delivered c.history,
    Among x (acked c.history) ∨ Among x (left c.history) ∨ Open hand c.state x
  unsettled : ∀ x, Open hand c.state x → ¬Among x (acked c.history) ∧ ¬Among x (left c.history)
  apart : ∀ x, Among x (acked c.history) → ¬Among x (left c.history)
  hand : ∀ r ∈ hand, r ∈ delivered c.history ∧ c.state.last r.place = some r.offset ∧
    c.state.rewound r.place = none
  rewound : ∀ p, ∀ r ∈ c.state.rewound p,
    r.place = p ∧ c.state.last p = some r.offset ∧ Among r (delivered c.history)
  order : InOrder c.history

/-! ### What happens keeps the invariant -/

variable {hand : Option Record} {f : Feed} {h : History} {c : Moment} {r x : Record}

theorem slot_eq_iff : r.slot = x.slot ↔ r.place = x.place ∧ r.offset = x.offset := by
  simp [Record.slot]

/-- Nothing has happened. -/
theorem tidy_fresh : Tidy none ⟨.fresh, []⟩ := by
  constructor <;> simp [delivered, acked, left, Among, Open, InOrder, Feed.fresh]

/-- **What concerns no record** changes nothing. -/
theorem Tidy.quiet {e : Happening Unit api (Option WorkerSummary)} (t : Tidy hand ⟨f, h⟩)
    (received : atHand (e :: h) = atHand h ∨ hand = none)
    (hd : delivered (e :: h) = delivered h) (ha : acked (e :: h) = acked h)
    (hl : left (e :: h) = left h) (ho : InOrder (e :: h) = InOrder h) :
    Tidy hand ⟨f, e :: h⟩ where
  received := by
    rcases received with same | rfl
    · rw [same]
      exact t.received
    · simp
  last := by rw [hd]; exact t.last
  settled := by rw [hd, ha, hl]; exact t.settled
  accounted := by rw [hd, ha, hl]; exact t.accounted
  unsettled := by rw [ha, hl]; exact t.unsettled
  apart := by rw [ha, hl]; exact t.apart
  hand := by rw [hd]; exact t.hand
  rewound := by rw [hd]; exact t.rewound
  order := by rw [ho]; exact t.order

/-- A record that may be delivered does not come before the last one of its partition. -/
theorem Tidy.le_of_offers (t : Tidy none ⟨f, h⟩) (offers : f.Offers r) :
    ∀ o ∈ f.last r.place, o ≤ r.offset := by
  intro o last
  rw [Feed.Offers] at offers
  cases again : f.rewound r.place with
  | none =>
    rw [again] at offers
    exact Int.le_of_lt (offers o last)
  | some q =>
    rw [again] at offers
    have same := (t.rewound _ q again).2.1.symm.trans last
    simp only [Option.some.injEq] at same
    omega

/-- **A record that may be delivered is unsettled**: either it is the one to which its
partition was rewound, or it was not delivered before. -/
theorem Tidy.unsettled_of_offers (t : Tidy none ⟨f, h⟩) (offers : f.Offers r) :
    ¬Among r (acked h) ∧ ¬Among r (left h) := by
  rw [Feed.Offers] at offers
  cases again : f.rewound r.place with
  | none =>
    rw [again] at offers
    -- each record that was delivered is at or below the last offset of its partition
    have unseen : ¬Among r (delivered h) := by
      rintro ⟨y, mem, same⟩
      obtain ⟨place, offset⟩ := slot_eq_iff.1 same
      obtain ⟨o, last, le⟩ := t.last y mem
      have lt := offers o (place ▸ last)
      omega
    exact ⟨fun mem => unseen (t.settled r (.inl mem)), fun mem => unseen (t.settled r (.inr mem))⟩
  | some q =>
    rw [again] at offers
    exact t.unsettled r (.inr ⟨q, again, slot_eq_iff.2 ⟨(t.rewound _ q again).1, offers.symm⟩⟩)

/-- **A delivery** opens the record. -/
theorem Tidy.deliver (t : Tidy none ⟨f, h⟩) (offers : f.Offers r) :
    Tidy (some r) ⟨f.deliver r, .answered () .receive (.record r) :: h⟩ where
  received := by simp [atHand]
  last x mem := by
    rcases List.mem_cons.1 mem with rfl | mem
    · exact ⟨x.offset, f.last_deliver x, Int.le_refl _⟩
    · obtain ⟨o, last, le⟩ := t.last x mem
      by_cases place : x.place = r.place
      · rw [place] at last ⊢
        exact ⟨r.offset, f.last_deliver r, Int.le_trans le (t.le_of_offers offers o last)⟩
      · exact ⟨o, (f.last_deliver_of_ne r place).trans last, le⟩
  settled x mem := among_cons.2 (.inr (t.settled x mem))
  accounted x mem := by
    rcases List.mem_cons.1 mem with rfl | mem
    · exact .inr (.inr (.inl ⟨x, rfl, rfl⟩))
    · refine (t.accounted x mem).imp_right (Or.imp_right fun opened => ?_)
      obtain ⟨q, again, same⟩ : ∃ q ∈ f.rewound x.place, q.slot = x.slot := by
        simpa [Open] using opened
      by_cases place : x.place = r.place
      · -- its partition was rewound to it, so that it is what was delivered
        rw [place] at again
        have offset : r.offset = q.offset := by
          rw [Feed.Offers, again] at offers
          exact offers
        exact .inl ⟨r, rfl, slot_eq_iff.2 ⟨place.symm, offset.trans (slot_eq_iff.1 same).2⟩⟩
      · exact .inr ⟨q, (f.rewound_deliver_of_ne r place).trans again, same⟩
  unsettled x opened := by
    rcases opened with ⟨q, eq, same⟩ | ⟨q, again, same⟩
    · cases eq
      have unsettled := t.unsettled_of_offers offers
      rwa [Among.congr same, Among.congr same] at unsettled
    · by_cases place : x.place = r.place
      · simp [place] at again
      · rw [f.rewound_deliver_of_ne r place] at again
        exact t.unsettled x (.inr ⟨q, again, same⟩)
  apart := t.apart
  hand q eq := by
    cases eq
    exact ⟨List.mem_cons_self, f.last_deliver r, f.rewound_deliver r⟩
  rewound p q again := by
    by_cases place : p = r.place
    · simp [place] at again
    · rw [f.rewound_deliver_of_ne r place] at again
      rw [f.last_deliver_of_ne r place]
      obtain ⟨own, last, mem⟩ := t.rewound p q again
      exact ⟨own, last, among_cons.2 (.inr mem)⟩
  order := t.order

/-- **The order of an acknowledgement**: nothing before the record that is worked on is open. -/
theorem Tidy.acked_iff_of_hand (t : Tidy (some r) ⟨f, h⟩) (mem : x ∈ delivered h)
    (place : x.place = r.place) (lt : x.offset < r.offset) :
    Among x (acked h) ↔ ¬Among x (left h) := by
  refine ⟨t.apart x, fun stayed => ?_⟩
  rcases t.accounted x mem with done | gone | ⟨q, eq, same⟩ | ⟨q, again, same⟩
  · exact done
  · exact absurd gone stayed
  · cases eq
    have offset := (slot_eq_iff.1 same).2
    omega
  · rw [place, (t.hand r rfl).2.2] at again
    cases again

/-- **Settling** the record that is worked on, whether it is acknowledged or left, closes it. -/
theorem Tidy.settle {e : Happening Unit api (Option WorkerSummary)} (t : Tidy (some r) ⟨f, h⟩)
    (hd : delivered (e :: h) = delivered h)
    (side : acked (e :: h) = r :: acked h ∧ left (e :: h) = left h ∨
      acked (e :: h) = acked h ∧ left (e :: h) = r :: left h)
    (ho : InOrder (e :: h)) : Tidy none ⟨f, e :: h⟩ := by
  obtain ⟨got, -, closed⟩ := t.hand r rfl
  have fresh := t.unsettled r (.inl ⟨r, rfl, rfl⟩)
  have settled : ∀ x, Among x (acked (e :: h)) ∨ Among x (left (e :: h)) ↔
      r.slot = x.slot ∨ Among x (acked h) ∨ Among x (left h) := by
    intro x
    rcases side with ⟨ha, hl⟩ | ⟨ha, hl⟩
    · rw [ha, hl, among_cons, or_assoc]
    · rw [ha, hl, among_cons, or_left_comm]
  -- while a record is worked on its partition is not rewound, so that nothing reopens it
  have opened : ∀ x, Open none f x → r.slot ≠ x.slot := by
    rintro x (⟨q, eq, -⟩ | ⟨q, again, -⟩) same
    · cases eq
    · rw [← (slot_eq_iff.1 same).1, closed] at again
      cases again
  constructor
  case received => simp
  case last => rw [hd]; exact t.last
  case settled =>
    intro x mem
    rw [hd]
    rcases (settled x).1 mem with same | before
    · exact ⟨r, got, same⟩
    · exact t.settled x before
  case accounted =>
    intro x mem
    rw [hd] at mem
    rw [← or_assoc, settled]
    rcases t.accounted x mem with done | gone | ⟨q, eq, same⟩ | again
    · exact .inl (.inr (.inl done))
    · exact .inl (.inr (.inr gone))
    · cases eq
      exact .inl (.inl same)
    · exact .inr (.inr again)
  case unsettled =>
    intro x still
    rw [← not_or, settled]
    have before := t.unsettled x (.inr (still.resolve_left (by simp)))
    simp [opened x still, before]
  case apart =>
    intro x
    by_cases same : r.slot = x.slot
    · have fresh : ¬Among x (acked h) ∧ ¬Among x (left h) := by
        rwa [Among.congr same, Among.congr same] at fresh
      rcases side with ⟨ha, hl⟩ | ⟨ha, hl⟩ <;> simp [ha, hl, fresh]
    · rcases side with ⟨ha, hl⟩ | ⟨ha, hl⟩ <;> simpa [ha, hl, among_cons, same] using t.apart x
  case hand => simp
  case rewound => rw [hd]; exact t.rewound
  case order => exact ho

/-- **A rewind** leaves the record open, as the next one of its partition. -/
theorem Tidy.rewind (t : Tidy (some r) ⟨f, h⟩) :
    Tidy none ⟨f.rewind r, .answered () (.nack r) (.ok ()) :: h⟩ := by
  have closed : f.rewound r.place = none := (t.hand r rfl).2.2
  -- the record goes from the worker's hand to the feed, and is open in both
  have opened : ∀ x, Open none (f.rewind r) x ↔ Open (some r) f x := by
    intro x
    by_cases place : x.place = r.place
    · simp [Open, place, closed]
    · have apart : r.slot ≠ x.slot := fun same => place (slot_eq_iff.1 same).1.symm
      simp [Open, f.rewound_rewind_of_ne r place, apart]
  constructor
  case received => simp
  case last => exact t.last
  case settled => exact t.settled
  case accounted =>
    intro x mem
    exact (t.accounted x mem).imp_right (Or.imp_right (opened x).2)
  case unsettled =>
    intro x still
    exact t.unsettled x ((opened x).1 still)
  case apart => exact t.apart
  case hand => simp
  case rewound =>
    intro p q again
    by_cases place : p = r.place
    · subst place
      rw [f.rewound_rewind] at again
      cases again
      exact ⟨rfl, (t.hand r rfl).2.1, r, (t.hand r rfl).1, rfl⟩
    · rw [f.rewound_rewind_of_ne r place] at again
      exact t.rewound p q again
  case order => exact t.order

/-! ### The discipline -/

/-- **The discipline of a worker's run.** There is nobody else to interfere. -/
def tidiness : Discipline Unit api (Option WorkerSummary) Feed where
  inv c := ∃ hand, Tidy hand c
  rely _ f g := f = g
  rely_refl _ _ := rfl
  rely_trans _ := Eq.trans

section

variable {policy : RetryPolicy} {id limit : Nat} {d : Moment} {w : Worker}

/-- How the dialogues of a worker are read. -/
abbrev reading (policy : RetryPolicy) (id limit : Nat) : Dialogue.Spec api Telemetry Moment :=
  tidiness.spec (working policy id limit) ()

/-- Meanwhile nothing happens. -/
theorem eq_of_meanwhile (m : tidiness.Meanwhile () c d) : d = c := by
  obtain ⟨later, eq, others⟩ := m.aside
  have none : later = [] := List.eq_nil_iff_forall_not_mem.2 fun x mem => others x mem rfl
  have state : c.state = d.state := m.rely
  cases c
  cases d
  simp_all

theorem allows_of_tidy (t : Tidy hand d) : tidiness.Allows () c d :=
  ⟨⟨hand, t⟩, fun _ ne => absurd rfl ne⟩

/-- A note changes nothing. -/
theorem tell_of_tidy {note : Telemetry} {wish : Moment → Prop} (t : Tidy hand c)
    (after : wish c) : (reading policy id limit).tell note wish c := by
  intro d m
  cases eq_of_meanwhile m
  exact ⟨allows_of_tidy t, after⟩

/-- A question may be asked if every answer to it leaves a tidy moment. -/
theorem ask_of_tidy {question : Question} {wish : api.Answer question → Moment → Prop}
    (after : ∀ answer f, (working policy id limit).answers () question c.state answer f →
      (∃ hand, Tidy hand (c.answered () question answer f)) ∧
        wish answer (c.answered () question answer f)) :
    (reading policy id limit).ask question wish c := by
  intro d m answer f ha
  cases eq_of_meanwhile m
  obtain ⟨⟨hand, t⟩, holds⟩ := after answer f ha
  exact ⟨allows_of_tidy t, holds⟩

/-! ### What a turn needs -/

/-- **Dispatching** is no matter of the transport. -/
theorem wp_dispatching {post : Disposition → Moment → Prop} (t : Tidy (some r) c)
    (after : ∀ disposition d, Tidy (some r) d → post disposition d) :
    (dispatching policy r).wp (reading policy id limit) post c := by
  rw [dispatching, Dialogue.wp_embed]
  refine Dialogue.wp_of_stable (K := Tidy (some r)) (fun q d td => ?_) (fun note d td => ?_)
    after _ t
  · refine ask_of_tidy fun answer f ha => ?_
    cases ha
    have td := td.quiet (e := .answered () (.dispatch q) answer) (.inl rfl) rfl rfl rfl rfl
    exact ⟨⟨_, td⟩, td⟩
  · exact tell_of_tidy td td

/-- Acknowledging closes the record. -/
theorem wp_acknowledge (t : Tidy (some r) c) :
    (acknowledge w r).wp (reading policy id limit) (fun _ => Tidy none) c := by
  refine ask_of_tidy fun answer f ha => ?_
  have same : f = c.state := by
    cases answer <;> exact ha
  subst same
  have td : Tidy none (c.answered () (.ack r) answer c.state) :=
    t.settle rfl (.inl ⟨rfl, rfl⟩) ⟨fun _ => t.acked_iff_of_hand, t.order⟩
  refine ⟨⟨_, td⟩, ?_⟩
  match answer with
  | .ok () => exact td
  | .error _ => exact tell_of_tidy td td

/-- **Asking for another delivery** closes the record or makes it the next one. -/
theorem wp_redeliver {delay : Span} {attempt : Nat} (t : Tidy (some r) c) :
    (redeliver w r delay attempt).wp (reading policy id limit) (fun _ => Tidy none) c := by
  refine tell_of_tidy t (ask_of_tidy fun rest f ha => ?_)
  cases ha
  match rest with
  | .interrupted =>
    have td : Tidy none (c.answered () (.rest delay) .interrupted c.state) :=
      t.settle rfl (.inr ⟨rfl, by simp [left, t.received r rfl]⟩) t.order
    exact ⟨⟨_, td⟩, tell_of_tidy td td⟩
  | .elapsed =>
    have td := t.quiet (e := .answered () (.rest delay) .elapsed) (.inl rfl) rfl rfl rfl rfl
    refine ⟨⟨_, td⟩, ask_of_tidy fun answer f ha => ?_⟩
    match answer with
    | .ok () =>
      cases ha
      have te := td.rewind
      exact ⟨⟨_, te⟩, te⟩
    | .error fault =>
      cases ha
      have te : Tidy none
          ((c.answered () (.rest delay) .elapsed c.state).answered () (.nack r) (.error fault)
            c.state) :=
        td.settle rfl (.inr ⟨rfl, rfl⟩) td.order
      exact ⟨⟨_, te⟩, tell_of_tidy te te⟩

theorem wp_settle {disposition : Disposition} (t : Tidy (some r) c) :
    (settle w r disposition).wp (reading policy id limit) (fun _ => Tidy none) c := by
  cases disposition with
  | acked | deadLettered => exact wp_acknowledge t
  | retry => exact wp_redeliver t

theorem wp_noteSuccess (t : Tidy hand c) :
    (noteSuccess w).wp (reading policy id limit) (fun _ => Tidy hand) c := by
  rw [noteSuccess]
  split
  · exact tell_of_tidy t (tell_of_tidy t t)
  · exact t

/-- **A record that was received** is closed, or is the next one, when its work is done. -/
theorem wp_onRecord (t : Tidy (some r) c) :
    (onRecord policy w r).wp (reading policy id limit) (fun _ => Tidy none) c := by
  rw [onRecord, Dialogue.wp_bind]
  refine Dialogue.wp_mono (fun w c t => ?_) (wp_noteSuccess t)
  rw [Dialogue.wp_bind]
  refine wp_dispatching t fun disposition c t => ?_
  rw [Dialogue.wp_bind]
  exact wp_settle t

/-- A fault leaves no record, even if the wait after it is cut short. -/
theorem wp_onFault {fault : Transport.Fault} (t : Tidy none c)
    (received : atHand c.history = none) :
    (onFault w fault).wp (reading policy id limit) (fun _ => Tidy none) c := by
  refine tell_of_tidy t (tell_of_tidy t (tell_of_tidy t (ask_of_tidy fun rest f ha => ?_)))
  cases ha
  -- the last thing received was the fault, and a wait after it leaves no record
  have nothing : left (.answered () (.rest w.health.afterFault.backoff) rest :: c.history) =
      left c.history := by
    cases rest <;> simp [left, received]
  have td := t.quiet (.inr rfl) rfl rfl nothing rfl
  exact ⟨⟨_, td⟩, td⟩

/-- **A turn** begins and ends with no record at hand. -/
theorem wp_turn (t : Tidy none c) :
    (turn policy w).wp (reading policy id limit) (fun _ => Tidy none) c := by
  refine ask_of_tidy fun stopping f ha => ?_
  cases ha
  have t := t.quiet (e := .answered () .isStopping stopping) (.inr rfl) rfl rfl rfl rfl
  refine ⟨⟨_, t⟩, ?_⟩
  match stopping with
  | true => exact t
  | false =>
    refine ask_of_tidy fun arrival f ha => ?_
    match arrival with
    | .record r =>
      obtain ⟨offers, rfl⟩ := ha
      have t := t.deliver offers
      refine ⟨⟨_, t⟩, ?_⟩
      change ((onRecord policy w r).bind fun w => .done (some w)).wp (reading policy id limit) _ _
      rw [Dialogue.wp_bind]
      exact wp_onRecord t
    | .fault fault =>
      cases ha
      have t := t.quiet (e := .answered () .receive (.fault fault)) (.inr rfl) rfl rfl rfl rfl
      refine ⟨⟨_, t⟩, ?_⟩
      change ((w.onFault fault).bind fun w => .done (some w)).wp (reading policy id limit) _ _
      rw [Dialogue.wp_bind]
      exact wp_onFault t rfl
    | .closed =>
      cases ha
      have t := t.quiet (e := .answered () .receive .closed) (.inr rfl) rfl rfl rfl rfl
      exact ⟨⟨_, t⟩, tell_of_tidy t t⟩
    | .signalled =>
      cases ha
      have t := t.quiet (e := .answered () .receive .signalled) (.inr rfl) rfl rfl rfl rfl
      exact ⟨⟨_, t⟩, t⟩
    | .abandoned =>
      cases ha
      have t := t.quiet (e := .answered () .receive .abandoned) (.inr rfl) rfl rfl rfl rfl
      exact ⟨⟨_, t⟩, t⟩

/-- **So do any number of turns.** -/
theorem wp_turns (n : Nat) (t : Tidy none c) :
    (turns policy n w).wp (reading policy id limit) (fun _ => Tidy none) c := by
  induction n generalizing w c with
  | zero => exact t
  | succ n ih =>
    rw [turns, Dialogue.wp_bind]
    refine Dialogue.wp_mono (fun next c t => ?_) (wp_turn t)
    cases next with
    | none => exact tell_of_tidy t t
    | some w => exact ih t

/-- **So does a run.** -/
theorem wp_run (t : Tidy none c) :
    (run policy id limit).wp (reading policy id limit) (fun _ => Tidy none) c :=
  tell_of_tidy t (tell_of_tidy t (wp_turns limit t))

/-- Where nothing was delivered, no record is at hand. -/
theorem tidy_of_nothing (inv : tidiness.inv c) (nothing : delivered c.history = []) :
    Tidy none c := by
  obtain ⟨hand, t⟩ := inv
  cases hand with
  | none => exact t
  | some r => simpa [nothing] using (t.hand r rfl).1

theorem history_of_untouched (untouched : c.Untouched ()) : c.history = [] :=
  List.eq_nil_iff_forall_not_mem.2 fun x mem => untouched x mem rfl

/-- **The discipline is kept** by a worker over a feed that has delivered nothing. -/
theorem tidiness_kept : tidiness.Kept (working policy id limit) .fresh where
  opening := ⟨none, tidy_fresh⟩
  begins _ c inv untouched := by
    have t := tidy_of_nothing inv (by rw [history_of_untouched untouched]; rfl)
    exact ⟨none, t.quiet (e := .began ()) (.inr rfl) rfl rfl rfl rfl⟩
  sound _ c inv untouched := by
    have nothing : delivered (c.began ()).history = [] := by
      rw [Affairs.began, history_of_untouched untouched]
      rfl
    refine Dialogue.wp_mono (fun value c t d m => ?_) (wp_run (tidy_of_nothing inv nothing))
    cases eq_of_meanwhile m
    exact allows_of_tidy (t.quiet (e := .ended () value) (.inr rfl) rfl rfl rfl rfl)

/-- What is in order was in order before. -/
theorem InOrder.of_append {later : History} (ordered : InOrder (later ++ h)) : InOrder h := by
  induction later with
  | nil => exact ordered
  | cons e later ih =>
    refine ih ?_
    cases e with
    | began | ended => exact ordered
    | answered _ question answer =>
      cases question with
      | ack => exact ordered.2
      | dispatch | isStopping | receive | nack | rest => exact ordered

/-- **The records before an acknowledged one.** Whenever a worker asks to acknowledge a record,
each record of a smaller offset that its partition delivered before was passed to `ack` as well,
unless it was left: unless the rewind to it failed, or the wait for its next delivery was cut
short. -/
theorem acked_iff_not_left {g : Gathering Unit api Telemetry (Option WorkerSummary) Feed}
    (reached : (working policy id limit).Reachable .fresh g) (later : History)
    {before : History} {answer : Except Transport.Fault Unit}
    (asked : g.affairs.history = later ++ .answered () (.ack r) answer :: before)
    (mem : x ∈ delivered before) (place : x.place = r.place) (lt : x.offset < r.offset) :
    Among x (acked before) ↔ ¬Among x (left before) := by
  obtain ⟨⟨hand, tidy⟩, -⟩ := tidiness_kept.sound_of_reachable reached
  have ordered := tidy.order
  rw [asked] at ordered
  exact ordered.of_append.1 x mem place lt

/-- **What was left is lost**: its acknowledgement is never asked, whatever comes later. -/
theorem not_acked_of_left {g : Gathering Unit api Telemetry (Option WorkerSummary) Feed}
    (reached : (working policy id limit).Reachable .fresh g)
    (gone : Among x (left g.affairs.history)) : ¬Among x (acked g.affairs.history) := by
  obtain ⟨⟨hand, tidy⟩, -⟩ := tidiness_kept.sound_of_reachable reached
  exact fun done => tidy.apart x done gone

end

/-- A record without payload. -/
def tombstone (offset : Int) : Record := ⟨"chat", 0, offset, none, none, 1⟩

/-- **A failed rewind**: the letter of the first record cannot be published, nor its partition
be rewound to it; the letters of the others are published, and the worker acknowledges them. -/
theorem reachable_failed_rewind :
    ∃ (g : Gathering Unit api Telemetry (Option WorkerSummary) Feed) (before : History),
      (working .default 0 3).Reachable .fresh g ∧
        g.affairs.history = .answered () (.ack (tombstone 2)) (.ok ()) :: before ∧
        delivered before = [tombstone 2, tombstone 1, tombstone 0] ∧
        acked before = [tombstone 1] ∧ left before = [tombstone 0] := by
  let S := working .default 0 3
  have going : ∀ f, S.answers () .isStopping f false f := fun _ => rfl
  let f := Feed.fresh.deliver (tombstone 0)
  let f' := f.deliver (tombstone 1)
  have first : S.answers () .receive .fresh (.record (tombstone 0)) f :=
    ⟨by simp [Feed.Offers, Feed.fresh], rfl⟩
  -- what was delivered last is passed by one at a time
  have next : ∀ (f : Feed) (o : Int), S.answers () .receive (f.deliver (tombstone o))
      (.record (tombstone (o + 1))) ((f.deliver (tombstone o)).deliver (tombstone (o + 1))) := by
    intro f o
    have same : (tombstone (o + 1)).place = (tombstone o).place := rfl
    refine ⟨?_, rfl⟩
    rw [Feed.Offers, same, Feed.rewound_deliver, Feed.last_deliver]
    rintro _ ⟨⟩
    exact Int.lt_succ o
  have second : S.answers () .receive f (.record (tombstone 1)) f' := next _ 0
  have third : S.answers () .receive f' (.record (tombstone 2)) (f'.deliver (tombstone 2)) :=
    next _ 1
  have now : ∀ f, S.answers () (.dispatch .now) f Timestamp.epoch f := fun _ => rfl
  have unpublished : ∀ r letter f, S.answers () (.dispatch (.publish r letter)) f
      (.error (.letterUnpublished "broker down")) f := fun _ _ _ => rfl
  have published : ∀ r letter f, S.answers () (.dispatch (.publish r letter)) f (.ok ()) f :=
    fun _ _ _ => rfl
  have elapsed : ∀ delay f, S.answers () (.rest delay) f .elapsed f := fun _ _ => rfl
  have stuck : ∀ r f, S.answers () (.nack r) f (.error ⟨"seek failed"⟩) f := fun _ _ => rfl
  have committed : ∀ r f, S.answers () (.ack r) f (.ok ()) f := fun _ _ => rfl
  have opening : S.Reachable .fresh (.opening .fresh) := .opening
  have run := opening.step () (.begin rfl)
    |>.step () (.tell rfl)
    |>.step () (.tell rfl)
    |>.step () (.ask rfl (going _))
    |>.step () (.ask rfl first)
    |>.step () (.tell rfl)
    |>.step () (.tell rfl)
    |>.step () (.tell rfl)
    |>.step () (.ask rfl (now _))
    |>.step () (.ask rfl (unpublished _ _ _))
    |>.step () (.tell rfl)
    |>.step () (.tell rfl)
    |>.step () (.tell rfl)
    |>.step () (.tell rfl)
    |>.step () (.tell rfl)
    |>.step () (.ask rfl (elapsed _ _))
    |>.step () (.ask rfl (stuck _ _))
    |>.step () (.tell rfl)
    |>.step () (.ask rfl (going _))
    |>.step () (.ask rfl second)
    |>.step () (.tell rfl)
    |>.step () (.tell rfl)
    |>.step () (.tell rfl)
    |>.step () (.ask rfl (now _))
    |>.step () (.ask rfl (published _ _ _))
    |>.step () (.tell rfl)
    |>.step () (.tell rfl)
    |>.step () (.tell rfl)
    |>.step () (.ask rfl (committed _ _))
    |>.step () (.ask rfl (going _))
    |>.step () (.ask rfl third)
    |>.step () (.tell rfl)
    |>.step () (.tell rfl)
    |>.step () (.tell rfl)
    |>.step () (.ask rfl (now _))
    |>.step () (.ask rfl (published _ _ _))
    |>.step () (.tell rfl)
    |>.step () (.tell rfl)
    |>.step () (.tell rfl)
    |>.step () (.ask rfl (committed _ _))
  exact ⟨_, _, run, rfl, rfl, rfl, rfl⟩

/-- **A worker acknowledges past a record** of the same partition, of which no acknowledgement
was asked. -/
theorem acknowledges_past_failed_rewind :
    ∃ (policy : RetryPolicy) (id limit : Nat)
      (g : Gathering Unit api Telemetry (Option WorkerSummary) Feed) (before : History)
      (r x : Record), (working policy id limit).Reachable .fresh g ∧
        g.affairs.history = .answered () (.ack r) (.ok ()) :: before ∧ x ∈ delivered before ∧
        x.place = r.place ∧ x.offset < r.offset ∧ ¬Among x (acked before) := by
  obtain ⟨g, before, reached, asked, got, done, -⟩ := reachable_failed_rewind
  refine ⟨_, _, _, g, before, tombstone 2, tombstone 0, reached, asked, ?_, rfl, by decide, ?_⟩
  · simp [got]
  · simp [done, Among, tombstone, Record.slot]

/-- In that run the records before the last one were acknowledged just if they were not left: one
was, and the other not. -/
theorem left_of_failed_rewind :
    ∃ (g : Gathering Unit api Telemetry (Option WorkerSummary) Feed) (before : History),
      (working .default 0 3).Reachable .fresh g ∧
        g.affairs.history = .answered () (.ack (tombstone 2)) (.ok ()) :: before ∧
        delivered before = [tombstone 2, tombstone 1, tombstone 0] ∧
        (∀ x ∈ [tombstone 0, tombstone 1], x.place = (tombstone 2).place ∧
          x.offset < (tombstone 2).offset ∧ (Among x (acked before) ↔ ¬Among x (left before))) ∧
        Among (tombstone 0) (left before) ∧ Among (tombstone 1) (acked before) := by
  obtain ⟨g, before, reached, asked, got, done, gone⟩ := reachable_failed_rewind
  have earlier : ∀ x ∈ [tombstone 0, tombstone 1], x ∈ delivered before ∧
      x.place = (tombstone 2).place ∧ x.offset < (tombstone 2).offset := by
    rw [got]
    decide
  have lost : Among (tombstone 0) (left before) := gone ▸ ⟨_, .head _, rfl⟩
  have kept : Among (tombstone 1) (acked before) := done ▸ ⟨_, .head _, rfl⟩
  refine ⟨g, before, reached, asked, got, fun x mem => ?_, lost, kept⟩
  obtain ⟨there, place, lt⟩ := earlier x mem
  exact ⟨place, lt, acked_iff_not_left reached [] asked there place lt⟩

end Worker

end MessageIntake
