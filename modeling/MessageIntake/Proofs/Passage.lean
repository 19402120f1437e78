import MessageIntake.Dialogue
/-!
# What a dialogue goes through

A `World` says what each question may be answered in each state, and the states that an answer
may leave; it may leave as much open as one likes. A `Passage` is one way through a dialogue in a
world, from a state of it to another, with all that was told and answered on the way.

Main statements: a passage through a sequence is a passage through its first part and then one
through its second (`passage_bind_iff`); a passage through an embedded dialogue is one through
the dialogue itself (`passage_embed_iff`); a passage in one world is one in any world that allows
as much (`Passage.map`); and in a world that has an answer to every question there is a passage
through every dialogue (`exists_passage`).
-/

namespace MessageIntake

/-- **A world** over an interface: `W question s answer s'` says that the question, asked in `s`,
may be answered so, and leave `s'`. -/
abbrev World (I : Interface) (σ : Type) :=
  (question : I.Question) → σ → I.Answer question → σ → Prop

namespace Dialogue

variable {I J : Interface} {ν α β σ τ : Type}

/-- **An event** of a dialogue: a note that was told, or a question that was answered, with the
state which the answer left. -/
inductive Event (I : Interface) (ν σ : Type) where
  | told (note : ν)
  | answered (question : I.Question) (answer : I.Answer question) (state : σ)

/-- **A passage** through a dialogue from one state of a world to another. -/
inductive Passage (W : World I σ) : Dialogue I ν α → σ → List (Event I ν σ) → α → σ → Prop where
  | done {value : α} {s : σ} : Passage W (.done value) s [] value s
  | tell {note : ν} {rest : Dialogue I ν α} {s s' : σ} {events : List (Event I ν σ)} {value : α}
      (h : Passage W rest s events value s') :
      Passage W (.tell note rest) s (.told note :: events) value s'
  | ask {question : I.Question} {rest : I.Answer question → Dialogue I ν α} {s mid s' : σ}
      {answer : I.Answer question} {events : List (Event I ν σ)} {value : α}
      (ha : W question s answer mid) (h : Passage W (rest answer) mid events value s') :
      Passage W (.ask question rest) s (.answered question answer mid :: events) value s'

variable {W : World I σ} {s s' : σ} {events : List (Event I ν σ)}

/-! ### Ways through the parts of a dialogue -/

theorem passage_done_iff {value value' : α} :
    Passage W (.done value) s events value' s' ↔ events = [] ∧ value' = value ∧ s' = s := by
  constructor
  · intro h
    cases h
    exact ⟨rfl, rfl, rfl⟩
  · rintro ⟨rfl, rfl, rfl⟩
    exact .done

theorem passage_tell_iff {note : ν} {rest : Dialogue I ν α} {value : α} :
    Passage W (.tell note rest) s events value s' ↔
      ∃ later, events = .told note :: later ∧ Passage W rest s later value s' := by
  constructor
  · intro h
    cases h with
    | tell h => exact ⟨_, rfl, h⟩
  · rintro ⟨later, rfl, h⟩
    exact .tell h

theorem passage_ask_iff {question : I.Question} {rest : I.Answer question → Dialogue I ν α}
    {value : α} :
    Passage W (.ask question rest) s events value s' ↔
      ∃ answer mid later, events = .answered question answer mid :: later ∧
        W question s answer mid ∧ Passage W (rest answer) mid later value s' := by
  constructor
  · intro h
    cases h with
    | ask ha h => exact ⟨_, _, _, rfl, ha, h⟩
  · rintro ⟨answer, mid, later, rfl, ha, h⟩
    exact .ask ha h

/-- **A passage through a sequence** goes through the first part and then the second. -/
theorem passage_bind_iff {d : Dialogue I ν α} {f : α → Dialogue I ν β} {value : β} :
    Passage W (d.bind f) s events value s' ↔
      ∃ first second v mid, events = first ++ second ∧ Passage W d s first v mid ∧
        Passage W (f v) mid second value s' := by
  induction d generalizing s events with
  | done v =>
    constructor
    · intro h
      exact ⟨[], events, v, s, rfl, .done, h⟩
    · rintro ⟨_, second, _, _, rfl, h, two⟩
      cases h
      exact two
  | tell note rest ih =>
    constructor
    · intro h
      obtain ⟨later, rfl, left⟩ := passage_tell_iff.1 h
      obtain ⟨first, second, v, mid, rfl, one, two⟩ := ih.1 left
      exact ⟨.told note :: first, second, v, mid, rfl, .tell one, two⟩
    · rintro ⟨_, second, v, mid, rfl, h, two⟩
      obtain ⟨first, rfl, one⟩ := passage_tell_iff.1 h
      exact .tell (ih.2 ⟨first, second, v, mid, rfl, one, two⟩)
  | ask question rest ih =>
    constructor
    · intro h
      obtain ⟨answer, next, later, rfl, ha, left⟩ := passage_ask_iff.1 h
      obtain ⟨first, second, v, mid, rfl, one, two⟩ := (ih answer).1 left
      exact ⟨.answered question answer next :: first, second, v, mid, rfl, .ask ha one, two⟩
    · rintro ⟨_, second, v, mid, rfl, h, two⟩
      obtain ⟨answer, next, first, rfl, ha, one⟩ := passage_ask_iff.1 h
      exact .ask ha ((ih answer).2 ⟨first, second, v, mid, rfl, one, two⟩)

/-- Notes that are told one after the other. -/
theorem passage_sayAll_iff {notes : List ν} {value : Unit} :
    Passage W (sayAll notes) s events value s' ↔ events = notes.map .told ∧ s' = s := by
  induction notes generalizing events with
  | nil => simp [sayAll, passage_done_iff]
  | cons note rest ih =>
    simp only [sayAll, passage_tell_iff, ih, List.map_cons]
    constructor
    · rintro ⟨_, rfl, rfl, rfl⟩
      exact ⟨rfl, rfl⟩
    · rintro ⟨rfl, rfl⟩
      exact ⟨_, rfl, rfl, rfl⟩

/-! ### One world in another -/

/-- An event of an embedded dialogue, as the larger interface sees it. -/
def Event.lift (question : I.Question → J.Question)
    (back : ∀ q, I.Answer q → J.Answer (question q)) : Event I ν σ → Event J ν σ
  | told note => .told note
  | answered q a state => .answered (question q) (back q a) state

/-- **A passage through an embedded dialogue** is one through the dialogue, each question being
answered as the one in its place. -/
theorem passage_embed_iff {W : World J σ} {question : I.Question → J.Question}
    {answer : ∀ q, J.Answer (question q) → I.Answer q}
    {back : ∀ q, I.Answer q → J.Answer (question q)} (left : ∀ q a, back q (answer q a) = a)
    (right : ∀ q a, answer q (back q a) = a) {d : Dialogue I ν α} {events : List (Event J ν σ)}
    {value : α} :
    Passage W (d.embed question answer) s events value s' ↔
      ∃ own, events = own.map (Event.lift question back) ∧
        Passage (fun q s a s' => W (question q) s (back q a) s') d s own value s' := by
  induction d generalizing s events with
  | done v =>
    constructor
    · intro h
      obtain ⟨rfl, rfl, rfl⟩ := passage_done_iff.1 h
      exact ⟨[], rfl, .done⟩
    · rintro ⟨own, rfl, h⟩
      cases h
      exact .done
  | tell note rest ih =>
    constructor
    · intro h
      obtain ⟨later, rfl, passes⟩ := passage_tell_iff.1 h
      obtain ⟨own, rfl, held⟩ := ih.1 passes
      exact ⟨.told note :: own, rfl, .tell held⟩
    · rintro ⟨_, rfl, h⟩
      obtain ⟨own, rfl, passes⟩ := passage_tell_iff.1 h
      exact .tell (ih.2 ⟨own, rfl, passes⟩)
  | ask q rest ih =>
    constructor
    · intro h
      obtain ⟨a, mid, later, rfl, ha, passes⟩ := passage_ask_iff.1 h
      obtain ⟨own, rfl, held⟩ := (ih (answer q a)).1 passes
      refine ⟨.answered q (answer q a) mid :: own, ?_, .ask ?_ held⟩
      · simp [Event.lift, left]
      · rwa [left]
    · rintro ⟨_, rfl, h⟩
      obtain ⟨a, mid, own, rfl, ha, passes⟩ := passage_ask_iff.1 h
      refine .ask ha ((ih (answer q (back q a))).2 ⟨own, rfl, ?_⟩)
      rwa [right]

/-- An event with its state seen through `f`. -/
def Event.mapState (f : σ → τ) : Event I ν σ → Event I ν τ
  | told note => .told note
  | answered q a state => .answered q a (f state)

/-- **A passage seen through a view of the states** is one in any world that allows what is
seen. -/
theorem Passage.map {V : World I τ} {f : σ → τ}
    (allows : ∀ q s a s', W q s a s' → V q (f s) a (f s')) {d : Dialogue I ν α} {value : α}
    (h : Passage W d s events value s') :
    Passage V d (f s) (events.map (Event.mapState f)) value (f s') := by
  induction h with
  | done => exact .done
  | tell _ ih => exact .tell ih
  | ask ha _ ih => exact .ask (allows _ _ _ _ ha) ih

/-! ### What holds along a passage -/

/-- **What every answer preserves**, a passage preserves. -/
theorem Passage.preserves {P : σ → Prop} {d : Dialogue I ν α} {value : α}
    (h : Passage W d s events value s') (steps : ∀ q s a s', W q s a s' → P s → P s')
    (holds : P s) : P s' := by
  induction h with
  | done => exact holds
  | tell _ ih => exact ih holds
  | ask ha _ ih => exact ih (steps _ _ _ _ ha holds)

/-- **What happened tells how it went**: of two passages through a dialogue that go by the same
events, whatever follows them, both come to the same value after the same events. -/
theorem Passage.eq_of_prefix {V : World I σ} {d : Dialogue I ν α} {value value' : α} {t t' : σ}
    {events' later : List (Event I ν σ)} (h : Passage W d s events value s')
    (h' : Passage V d t events' value' t') (pre : events <+: later) (pre' : events' <+: later) :
    events' = events ∧ value' = value := by
  induction h generalizing t events' later with
  | done =>
    obtain ⟨rfl, rfl, rfl⟩ := passage_done_iff.1 h'
    exact ⟨rfl, rfl⟩
  | tell _ ih =>
    obtain ⟨own, rfl, rest⟩ := passage_tell_iff.1 h'
    obtain ⟨tail, rfl⟩ := pre
    obtain ⟨rfl, rfl⟩ := ih rest (List.prefix_append ..) (List.cons_prefix_cons.1 pre').2
    exact ⟨rfl, rfl⟩
  | ask _ _ ih =>
    obtain ⟨answer, mid, own, rfl, -, rest⟩ := passage_ask_iff.1 h'
    obtain ⟨tail, rfl⟩ := pre
    -- both ask the same, and the common events tell one answer
    obtain ⟨same, following⟩ := List.cons_prefix_cons.1 pre'
    cases same
    obtain ⟨rfl, rfl⟩ := ih rest (List.prefix_append ..) following
    exact ⟨rfl, rfl⟩

/-! ### What was asked -/

/-- **An exchange**: a question and its answer. -/
structure Exchange (I : Interface) where
  question : I.Question
  answer : I.Answer question

/-- The exchange in an event. -/
def Event.exchange? : Event I ν σ → Option (Exchange I)
  | told _ => none
  | answered question answer _ => some ⟨question, answer⟩

/-- **The exchanges** on the way, the first one first. -/
def exchanges (events : List (Event I ν σ)) : List (Exchange I) :=
  events.filterMap Event.exchange?

@[simp] theorem exchanges_nil : exchanges ([] : List (Event I ν σ)) = [] := rfl

@[simp] theorem exchanges_told (note : ν) (events : List (Event I ν σ)) :
    exchanges (.told note :: events) = exchanges events := rfl

@[simp] theorem exchanges_answered (question : I.Question) (answer : I.Answer question) (state : σ)
    (events : List (Event I ν σ)) :
    exchanges (.answered question answer state :: events) =
      ⟨question, answer⟩ :: exchanges events := rfl

@[simp] theorem exchanges_append (events later : List (Event I ν σ)) :
    exchanges (events ++ later) = exchanges events ++ exchanges later := List.filterMap_append

/-! ### Ways that there are -/

/-- **In a world that has an answer to every question** there is a way through every dialogue. -/
theorem exists_passage (total : ∀ q s, ∃ a s', W q s a s') (d : Dialogue I ν α) (s : σ) :
    ∃ (events : List (Event I ν σ)) (value : α) (s' : σ), Passage W d s events value s' := by
  induction d generalizing s with
  | done value => exact ⟨[], value, s, .done⟩
  | tell note rest ih =>
    obtain ⟨events, value, s', h⟩ := ih s
    exact ⟨_, value, s', .tell h⟩
  | ask question rest ih =>
    obtain ⟨answer, mid, ha⟩ := total question s
    obtain ⟨events, value, s', h⟩ := ih answer mid
    exact ⟨_, value, s', .ask ha h⟩

end Dialogue

end MessageIntake
