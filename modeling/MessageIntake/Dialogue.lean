/-!
# Dialogues

Work that has to ask its surroundings (a store, a broker, a clock) is a *dialogue*: it ends
with a value, or tells an observer something and goes on, or asks a question and goes on
with the answer. A dialogue is data: it says what is asked in which order and what follows
from each answer, and leaves open who answers. The same dialogue can so be run against a
simulation, against surroundings of which nothing is known, or step by step among others.

Main statements: dialogues form a lawful monad (`bind_assoc`, `bind_done`); embedding and
interpretation go through a sequence part by part (`embed_bind`, `interpret_bind`); a run of
a sequence is the run of the parts one after the other (`run_bind`).
-/

namespace MessageIntake

/-- **An interface**: the questions that may be asked and what answers each of them has. -/
structure Interface where
  Question : Type
  Answer : Question → Type

/-- **A dialogue** over an interface, telling notes of type `ν` and ending with an `α`. -/
inductive Dialogue (I : Interface) (ν α : Type) where
  | done (value : α)
  | tell (note : ν) (rest : Dialogue I ν α)
  | ask (question : I.Question) (rest : I.Answer question → Dialogue I ν α)

namespace Dialogue

variable {I J : Interface} {ν α β γ σ : Type}

/-- One dialogue after the other, the second going on with the value of the first. -/
def bind : Dialogue I ν α → (α → Dialogue I ν β) → Dialogue I ν β
  | done value, f => f value
  | tell note rest, f => .tell note (rest.bind f)
  | ask question rest, f => .ask question fun answer => (rest answer).bind f

instance : Monad (Dialogue I ν) where
  pure := done
  bind := bind

/-- Tells one note. -/
def say (note : ν) : Dialogue I ν Unit := .tell note (.done ())

/-- Tells notes one after the other. -/
def sayAll : List ν → Dialogue I ν Unit
  | [] => .done ()
  | note :: rest => .tell note (sayAll rest)

/-- Asks one question. -/
def query (question : I.Question) : Dialogue I ν (I.Answer question) :=
  .ask question .done

/-- **Embedding**: the dialogue held over a larger interface. -/
def embed (question : I.Question → J.Question)
    (answer : ∀ q, J.Answer (question q) → I.Answer q) :
    Dialogue I ν α → Dialogue J ν α
  | done value => .done value
  | tell note rest => .tell note (rest.embed question answer)
  | ask q rest => .ask (question q) fun a => (rest (answer q a)).embed question answer

/-- **Interpretation**: each question is answered by a dialogue over another interface. -/
def interpret (f : ∀ question, Dialogue J ν (I.Answer question)) :
    Dialogue I ν α → Dialogue J ν α
  | done value => .done value
  | tell note rest => .tell note (rest.interpret f)
  | ask question rest => (f question).bind fun answer => (rest answer).interpret f

@[simp] theorem bind_done (d : Dialogue I ν α) : d.bind done = d := by
  induction d with
  | done _ => rfl
  | tell note rest ih => simp [bind, ih]
  | ask question rest ih => simp [bind, ih]

theorem bind_assoc (d : Dialogue I ν α) (f : α → Dialogue I ν β) (g : β → Dialogue I ν γ) :
    (d.bind f).bind g = d.bind fun value => (f value).bind g := by
  induction d with
  | done _ => rfl
  | tell note rest ih => simp [bind, ih]
  | ask question rest ih => simp [bind, ih]

instance : LawfulMonad (Dialogue I ν) :=
  LawfulMonad.mk' _ bind_done (fun _ _ => rfl) bind_assoc

/-- Embedding a sequence embeds its parts. -/
theorem embed_bind (question : I.Question → J.Question)
    (answer : ∀ q, J.Answer (question q) → I.Answer q) (d : Dialogue I ν α)
    (f : α → Dialogue I ν β) :
    (d.bind f).embed question answer =
      (d.embed question answer).bind fun value => (f value).embed question answer := by
  induction d with
  | done _ => rfl
  | tell note rest ih => simp [bind, embed, ih]
  | ask q rest ih => simp [bind, embed, ih]

/-- Interpreting a sequence interprets its parts. -/
theorem interpret_bind (g : ∀ question, Dialogue J ν (I.Answer question))
    (d : Dialogue I ν α) (f : α → Dialogue I ν β) :
    (d.bind f).interpret g =
      (d.interpret g).bind fun value => (f value).interpret g := by
  induction d with
  | done _ => rfl
  | tell note rest ih => simp [bind, interpret, ih]
  | ask question rest ih => simp [bind, interpret, ih, bind_assoc]

/-! ### Surroundings -/

/-- **Surroundings** with a state: how they answer and what they make of notes. -/
structure Surroundings (I : Interface) (ν σ : Type) where
  answer : (question : I.Question) → σ → I.Answer question × σ
  hear : ν → σ → σ

/-- **A run** of a dialogue in surroundings, from a state of theirs. -/
def run (s : Surroundings I ν σ) : Dialogue I ν α → σ → α × σ
  | done value, state => (value, state)
  | tell note rest, state => rest.run s (s.hear note state)
  | ask question rest, state =>
    (rest (s.answer question state).1).run s (s.answer question state).2

@[simp] theorem run_done (s : Surroundings I ν σ) (value : α) (state : σ) :
    (done value : Dialogue I ν α).run s state = (value, state) := rfl

/-- **Runs of a sequence**: the second part starts where the first one ended. -/
theorem run_bind (s : Surroundings I ν σ) (d : Dialogue I ν α) (f : α → Dialogue I ν β)
    (state : σ) :
    (d.bind f).run s state = (f (d.run s state).1).run s (d.run s state).2 := by
  induction d generalizing state with
  | done _ => rfl
  | tell note rest ih => exact ih _
  | ask question rest ih => exact ih _ _

end Dialogue

end MessageIntake
