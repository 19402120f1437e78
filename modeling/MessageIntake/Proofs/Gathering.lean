import Mathlib.Logic.Function.Basic
import Mathlib.Logic.Relation
import MessageIntake.Proofs.Precondition
/-!
# Dialogues held among one another

A `Setting` has participants, each with its part, a dialogue; what one asks or tells may
change what the others find. A `Gathering` is a moment of it: the state of the surroundings,
how far each participant has come, and a history of what happened, the newest first. Any
participant may make the next step, so that every order of steps is a run.

A participant that works through several tasks is several participants here: nothing bids
them begin together, and no order of beginning is left out.

Main statement: `Discipline.Kept.sound_of_reachable`. A discipline is an invariant of the
surroundings and the history, together with what each participant relies on that the others
leave alone. If the start has the invariant, and each part, read step by step against
interference by the others, keeps the invariant and disturbs nobody, then all this holds in
every run.
-/

namespace MessageIntake

open Function (update)

variable {ι : Type} {I : Interface} {ν α σ : Type}

/-! ### Histories -/

/-- **What happens** in a gathering. -/
inductive Happening (ι : Type) (I : Interface) (α : Type) where
  | began (who : ι)
  | answered (who : ι) (question : I.Question) (answer : I.Answer question)
  | ended (who : ι) (value : α)

/-- Who made it happen. -/
def Happening.who : Happening ι I α → ι
  | began who | answered who _ _ | ended who _ => who

/-- **What participants have in common**: the state of their surroundings, and all that
happened, the newest first. -/
structure Affairs (ι : Type) (I : Interface) (α σ : Type) where
  state : σ
  history : List (Happening ι I α)

namespace Affairs

/-- The affairs after a participant has begun. -/
def began (c : Affairs ι I α σ) (who : ι) : Affairs ι I α σ :=
  { c with history := .began who :: c.history }

/-- The affairs after an answer that left the surroundings in `state`. -/
def answered (c : Affairs ι I α σ) (who : ι) (question : I.Question)
    (answer : I.Answer question) (state : σ) : Affairs ι I α σ :=
  ⟨state, .answered who question answer :: c.history⟩

/-- The affairs after a participant has come to its end. -/
def ended (c : Affairs ι I α σ) (who : ι) (value : α) : Affairs ι I α σ :=
  { c with history := .ended who value :: c.history }

section

variable {c : Affairs ι I α σ} {who other : ι} {value value' : α}

theorem ended_mem_began :
    .ended other value ∈ (c.began who).history ↔ .ended other value ∈ c.history := by
  simp [began]

theorem ended_mem_answered {question : I.Question} {answer : I.Answer question} {state : σ} :
    .ended other value ∈ (c.answered who question answer state).history ↔
      .ended other value ∈ c.history := by
  simp [answered]

theorem ended_mem_ended :
    .ended other value ∈ (c.ended who value').history ↔
      other = who ∧ value = value' ∨ .ended other value ∈ c.history := by
  simp [ended]

end

/-- The participant has done nothing yet. -/
def Untouched (who : ι) (c : Affairs ι I α σ) : Prop := ∀ h ∈ c.history, h.who ≠ who

/-- **Aside from a participant**: all that happened from `c` to `d` was others' doing. -/
def Aside (who : ι) (c d : Affairs ι I α σ) : Prop :=
  ∃ later, d.history = later ++ c.history ∧ ∀ h ∈ later, h.who ≠ who

theorem Aside.refl (who : ι) (c : Affairs ι I α σ) : Aside who c c := ⟨[], rfl, by simp⟩

theorem Aside.trans {who : ι} {c d e : Affairs ι I α σ} (h : Aside who c d)
    (k : Aside who d e) : Aside who c e := by
  obtain ⟨x, hx, hx'⟩ := h
  obtain ⟨y, hy, hy'⟩ := k
  refine ⟨y ++ x, by rw [hy, hx, List.append_assoc], fun h mem => ?_⟩
  rcases List.mem_append.1 mem with mem | mem
  · exact hy' h mem
  · exact hx' h mem

/-- One happening of another participant is aside. -/
theorem Aside.of_cons {who : ι} {c d : Affairs ι I α σ} {h : Happening ι I α}
    (hd : d.history = h :: c.history) (other : h.who ≠ who) : Aside who c d :=
  ⟨[h], hd, by simpa using other⟩

end Affairs

/-! ### Settings and their runs -/

/-- **A setting**: the participants' parts, and what the surroundings may answer to each. -/
structure Setting (ι : Type) (I : Interface) (ν α σ : Type) where
  part : ι → Dialogue I ν α
  /-- `answers who question state answer state'`: the question may be answered so, and the
  surroundings are then in `state'`. -/
  answers : ι → (question : I.Question) → σ → I.Answer question → σ → Prop
  /-- What the surroundings make of a note. -/
  hears : ι → ν → σ → σ

/-- **How far a participant has come.** -/
inductive Progress (I : Interface) (ν α : Type) where
  | waiting
  | talking (rest : Dialogue I ν α)
  | finished (value : α)

/-- **A moment of a gathering.** -/
structure Gathering (ι : Type) (I : Interface) (ν α σ : Type) where
  affairs : Affairs ι I α σ
  progress : ι → Progress I ν α

/-- Nobody has begun. -/
def Gathering.opening (state : σ) : Gathering ι I ν α σ := ⟨⟨state, []⟩, fun _ => .waiting⟩

/-- All who have begun have come to their end. -/
def Gathering.Settled (g : Gathering ι I ν α σ) : Prop :=
  ∀ who rest, g.progress who ≠ .talking rest

namespace Setting

variable [DecidableEq ι]

/-- The affairs after a note. -/
def heard (S : Setting ι I ν α σ) (c : Affairs ι I α σ) (who : ι) (note : ν) :
    Affairs ι I α σ :=
  { c with state := S.hears who note c.state }

/-- **A step** of one participant. -/
inductive Step (S : Setting ι I ν α σ) (who : ι) :
    Gathering ι I ν α σ → Gathering ι I ν α σ → Prop where
  | begin {c : Affairs ι I α σ} {progress : ι → Progress I ν α} (h : progress who = .waiting) :
      Step S who ⟨c, progress⟩ ⟨c.began who, update progress who (.talking (S.part who))⟩
  | tell {c : Affairs ι I α σ} {progress : ι → Progress I ν α} {note : ν}
      {rest : Dialogue I ν α} (h : progress who = .talking (.tell note rest)) :
      Step S who ⟨c, progress⟩ ⟨S.heard c who note, update progress who (.talking rest)⟩
  | ask {c : Affairs ι I α σ} {progress : ι → Progress I ν α} {question : I.Question}
      {rest : I.Answer question → Dialogue I ν α} {answer : I.Answer question} {state : σ}
      (h : progress who = .talking (.ask question rest))
      (ha : S.answers who question c.state answer state) :
      Step S who ⟨c, progress⟩
        ⟨c.answered who question answer state, update progress who (.talking (rest answer))⟩
  | finish {c : Affairs ι I α σ} {progress : ι → Progress I ν α} {value : α}
      (h : progress who = .talking (.done value)) :
      Step S who ⟨c, progress⟩ ⟨c.ended who value, update progress who (.finished value)⟩

/-- **Steps of any participants in any order** lead from one moment to another. -/
def Leads (S : Setting ι I ν α σ) : Gathering ι I ν α σ → Gathering ι I ν α σ → Prop :=
  Relation.ReflTransGen fun g g' => ∃ who, S.Step who g g'

/-- **The moments of the runs** from a state of the surroundings. -/
def Reachable (S : Setting ι I ν α σ) (start : σ) (g : Gathering ι I ν α σ) : Prop :=
  S.Leads (.opening start) g

variable {S : Setting ι I ν α σ} {start : σ} {g g' : Gathering ι I ν α σ} {who : ι}

theorem Reachable.opening : S.Reachable start (.opening start) := .refl

theorem Reachable.step (h : S.Reachable start g) (who : ι) (hs : S.Step who g g') :
    S.Reachable start g' := h.tail ⟨who, hs⟩

/-- A step leaves the progress of the others as it was. -/
theorem Step.progress_of_ne (h : S.Step who g g') {other : ι} (ne : other ≠ who) :
    g'.progress other = g.progress other := by
  cases h <;> exact Function.update_of_ne ne ..

/-- A step is aside from all others. -/
theorem Step.aside (h : S.Step who g g') {other : ι} (ne : other ≠ who) :
    g.affairs.Aside other g'.affairs := by
  cases h with
  | tell => exact .refl other _
  | begin | ask | finish => exact .of_cons rfl ne.symm

/-- **Who waits has done nothing**, and who has ended is in the history with its value. -/
theorem Reachable.history (h : S.Reachable start g) (who : ι) :
    (g.progress who = .waiting → g.affairs.Untouched who) ∧
      ∀ value, g.progress who = .finished value ↔ .ended who value ∈ g.affairs.history := by
  induction h with
  | refl => simp [Gathering.opening, Affairs.Untouched]
  | tail _ step ih =>
    obtain ⟨actor, step⟩ := step
    by_cases same : who = actor
    · subst same
      have news := ih.2
      cases step with
      | _ h =>
        refine ⟨by simp, fun value => ?_⟩
        simp_all [Affairs.began, Affairs.answered, Affairs.ended, heard, eq_comm]
    · obtain ⟨later, eq, others⟩ := step.aside same
      have fresh : ∀ value, .ended who value ∉ later := fun value mem => others _ mem rfl
      rw [step.progress_of_ne same, eq]
      refine ⟨fun waits => ?_, fun value => by simpa [fresh] using ih.2 value⟩
      intro h mem
      rw [eq] at mem
      exact (List.mem_append.1 mem).elim (others h) (ih.1 waits h)

/-- Once all is settled, whoever did something has ended. -/
theorem Reachable.ended_of_settled (h : S.Reachable start g) (settled : g.Settled)
    {x : Happening ι I α} (mem : x ∈ g.affairs.history) :
    ∃ value, .ended x.who value ∈ g.affairs.history := by
  cases talks : g.progress x.who with
  | waiting => exact absurd rfl ((h.history x.who).1 talks x mem)
  | talking rest => exact absurd talks (settled _ rest)
  | finished value => exact ⟨value, ((h.history x.who).2 value).1 talks⟩

/-- Who is still talking has not ended. -/
theorem Reachable.unended (h : S.Reachable start g) {rest : Dialogue I ν α}
    (talks : g.progress who = .talking rest) (value : α) :
    .ended who value ∉ g.affairs.history := fun mem => by
  simp [((h.history who).2 value).2 mem] at talks

/-- What the surroundings go through in a step is what answers and notes put them through. -/
theorem Step.surroundings {R : σ → σ → Prop} (refl : ∀ s, R s s)
    (answers : ∀ who question s answer s', S.answers who question s answer s' → R s s')
    (hears : ∀ who note s, R s (S.hears who note s)) (h : S.Step who g g') :
    R g.affairs.state g'.affairs.state := by
  cases h with
  | begin | finish => exact refl _
  | tell => exact hears ..
  | ask _ ha => exact answers _ _ _ _ _ ha

/-- So it is in many steps. -/
theorem Leads.surroundings {R : σ → σ → Prop} (refl : ∀ s, R s s)
    (trans : ∀ {s t u}, R s t → R t u → R s u)
    (answers : ∀ who question s answer s', S.answers who question s answer s' → R s s')
    (hears : ∀ who note s, R s (S.hears who note s)) (h : S.Leads g g') :
    R g.affairs.state g'.affairs.state := by
  induction h with
  | refl => exact refl _
  | tail _ step ih =>
    obtain ⟨_, step⟩ := step
    exact trans ih (step.surroundings refl answers hears)

/-- **The reading of a part that leaves its surroundings alone** while these satisfy `P`. -/
def idle (S : Setting ι I ν α σ) (who : ι) (P : σ → Prop) : Dialogue.Spec I ν Unit where
  ask question wish c :=
    ∀ s, P s → ∀ answer s', S.answers who question s answer s' → s' = s ∧ wish answer c
  tell note wish c := ∀ s, P s → S.hears who note s = s ∧ wish c
  ask_mono h c hc s hs answer s' ha := (hc s hs answer s' ha).imp_right (h answer c)
  tell_mono h c hc s hs := (hc s hs).imp_right (h c)

/-- **A participant that begins when `P` holds for good** leaves the surroundings alone and
comes to the end that it should, if its part does so while `P` holds. -/
theorem Leads.idle {P : σ → Prop} {post : α → Prop}
    (part : (S.part who).wp (S.idle who P) (fun value _ => post value) ())
    (waits : g.progress who = .waiting) (always : ∀ g', S.Leads g g' → P g'.affairs.state)
    (h : S.Leads g g') :
    (∀ value, g'.progress who = .finished value → post value) ∧
      ∀ next, S.Step who g' next → next.affairs.state = g'.affairs.state := by
  -- the reading of what is left of the part is carried through the run, others' steps included
  have reading : (∀ value, g'.progress who = .finished value → post value) ∧
      ∀ rest, g'.progress who = .talking rest →
        rest.wp (S.idle who P) (fun value _ => post value) () := by
    induction h with
    | refl => simp [waits]
    | tail before step ih =>
      obtain ⟨actor, step⟩ := step
      by_cases same : who = actor
      · subst same
        have holds := always _ before
        obtain ⟨_, sound⟩ := ih
        cases step with
        | begin h => simpa using part
        | tell h => simpa using (sound _ h _ holds).2
        | ask h ha => simpa using (sound _ h _ holds _ _ ha).2
        | finish h => simpa using sound _ h
      · rw [step.progress_of_ne same]
        exact ih
  refine ⟨reading.1, fun next step => ?_⟩
  have holds := always _ h
  cases step with
  | begin | finish => rfl
  | tell talks => exact (reading.2 _ talks _ holds).1
  | ask talks ha => exact (reading.2 _ talks _ holds _ _ ha).1

end Setting

/-! ### Disciplines -/

/-- **A discipline**: an invariant, and what of the surroundings each participant relies on
that the others leave alone. -/
structure Discipline (ι : Type) (I : Interface) (α σ : Type) where
  inv : Affairs ι I α σ → Prop
  rely : ι → σ → σ → Prop
  rely_refl : ∀ who s, rely who s s
  rely_trans : ∀ who {s t u}, rely who s t → rely who t u → rely who s u

namespace Discipline

variable (D : Discipline ι I α σ) (S : Setting ι I ν α σ)

/-- **Meanwhile**: from `c` to `d` only others made steps, and left alone what `who` relies
on; the invariant holds at `d`, and `who` has not ended. -/
structure Meanwhile (who : ι) (c d : Affairs ι I α σ) : Prop where
  aside : c.Aside who d
  rely : D.rely who c.state d.state
  inv : D.inv d
  unended : ∀ value, .ended who value ∉ d.history

/-- **An allowed step** of a participant keeps the invariant and disturbs nobody. -/
structure Allows (who : ι) (c d : Affairs ι I α σ) : Prop where
  inv : D.inv d
  rely : ∀ other, other ≠ who → D.rely other c.state d.state

/-- **The reading of a part** against interference by the others before each of its steps. -/
def spec (who : ι) : Dialogue.Spec I ν (Affairs ι I α σ) where
  ask question wish c :=
    ∀ d, D.Meanwhile who c d → ∀ answer state, S.answers who question d.state answer state →
      D.Allows who d (d.answered who question answer state) ∧
        wish answer (d.answered who question answer state)
  tell note wish c :=
    ∀ d, D.Meanwhile who c d → D.Allows who d (S.heard d who note) ∧ wish (S.heard d who note)
  ask_mono h _ hc d hd answer state ha := (hc d hd answer state ha).imp_right (h _ _)
  tell_mono h _ hc d hd := (hc d hd).imp_right (h _)

/-- What is wanted at the end of a part: that ending is an allowed step. -/
def ending (who : ι) (value : α) (c : Affairs ι I α σ) : Prop :=
  ∀ d, D.Meanwhile who c d → D.Allows who d (d.ended who value)

/-- **What is left of a part is sound**: none of its steps will break the discipline. -/
def Sound (who : ι) (rest : Dialogue I ν α) (c : Affairs ι I α σ) : Prop :=
  rest.wp (D.spec S who) (D.ending who) c

/-- **The discipline is kept** by all parts from a state of the surroundings on. -/
structure Kept (start : σ) : Prop where
  opening : D.inv ⟨start, []⟩
  begins : ∀ who (c : Affairs ι I α σ), D.inv c → c.Untouched who → D.inv (c.began who)
  sound : ∀ who (c : Affairs ι I α σ), D.inv (c.began who) → c.Untouched who →
    D.Sound S who (S.part who) (c.began who)

variable {D S} {who : ι} {c d : Affairs ι I α σ}

theorem Meanwhile.refl (h : D.inv c) (unended : ∀ value, .ended who value ∉ c.history) :
    D.Meanwhile who c c :=
  ⟨.refl who c, D.rely_refl who _, h, unended⟩

theorem Meanwhile.trans {e : Affairs ι I α σ} (h : D.Meanwhile who c d)
    (k : D.Meanwhile who d e) : D.Meanwhile who c e :=
  ⟨h.aside.trans k.aside, D.rely_trans who h.rely k.rely, k.inv, k.unended⟩

/-- What others do does not make a part unsound. -/
theorem Sound.stable {rest : Dialogue I ν α} (h : D.Sound S who rest c)
    (hd : D.Meanwhile who c d) : D.Sound S who rest d := by
  cases rest with
  | done value => exact fun e he => h e (hd.trans he)
  | tell note rest => exact fun e he => h e (hd.trans he)
  | ask question rest => exact fun e he => h e (hd.trans he)

variable [DecidableEq ι] {start : σ} {g g' : Gathering ι I ν α σ}

/-- **A step** of a participant whose part is sound is allowed, and leaves it sound. -/
theorem Kept.step (k : D.Kept S start) (reached : S.Reachable start g) (inv : D.inv g.affairs)
    (sound : ∀ rest, g.progress who = .talking rest → D.Sound S who rest g.affairs)
    (h : S.Step who g g') :
    D.Allows who g.affairs g'.affairs ∧
      ∀ rest, g'.progress who = .talking rest → D.Sound S who rest g'.affairs := by
  cases h with
  | @begin c progress h =>
    have untouched := (reached.history who).1 h
    have begun := k.begins who c inv untouched
    refine ⟨⟨begun, fun other _ => D.rely_refl other _⟩, fun rest eq => ?_⟩
    simp only [Function.update_self, Progress.talking.injEq] at eq
    exact eq ▸ k.sound who c begun untouched
  | @tell c progress note rest h =>
    obtain ⟨allowed, left⟩ := sound _ h c (.refl inv (reached.unended h))
    refine ⟨allowed, fun rest' eq => ?_⟩
    simp only [Function.update_self, Progress.talking.injEq] at eq
    exact eq ▸ left
  | @ask c progress question rest answer state h ha =>
    obtain ⟨allowed, left⟩ := sound _ h c (.refl inv (reached.unended h)) answer state ha
    refine ⟨allowed, fun rest' eq => ?_⟩
    simp only [Function.update_self, Progress.talking.injEq] at eq
    exact eq ▸ left
  | @finish c progress value h =>
    refine ⟨sound _ h c (.refl inv (reached.unended h)), fun rest eq => ?_⟩
    simp at eq

/-- **A discipline that all parts keep holds in every run**: the invariant at each moment, and
what is left of each part is sound. -/
theorem Kept.sound_of_reachable (k : D.Kept S start) (h : S.Reachable start g) :
    D.inv g.affairs ∧
      ∀ who rest, g.progress who = .talking rest → D.Sound S who rest g.affairs := by
  induction h with
  | refl => exact ⟨k.opening, by simp [Gathering.opening]⟩
  | tail before step ih =>
    obtain ⟨actor, step⟩ := step
    obtain ⟨inv, sound⟩ := ih
    obtain ⟨allowed, left⟩ := k.step before inv (sound actor) step
    have reached := Setting.Reachable.step before actor step
    refine ⟨allowed.inv, fun who rest talks => ?_⟩
    -- whose step it was is left sound by it; what others have left to do is not touched
    by_cases same : who = actor
    · subst same
      exact left rest talks
    · have unended := reached.unended talks
      rw [step.progress_of_ne same] at talks
      exact (sound who rest talks).stable
        ⟨step.aside same, allowed.rely who same, allowed.inv, unended⟩

end Discipline

end MessageIntake
