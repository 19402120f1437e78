import MessageIntake.Dialogue
/-!
# What a dialogue needs beforehand

A `Dialogue.Spec` says, question by question, what has to hold of a state so that whatever
follows from the answer is as wanted; `Dialogue.wp` carries this through a whole dialogue.
What the answers may be, and what may happen to the state between two questions, is the
spec's affair alone, so that one reading serves a dialogue that is held by itself and one
that is held among others.

Main statements: a wish that is implied by another needs no more (`wp_mono`); a sequence needs
what its first part needs for the second (`wp_bind`); a dialogue embedded in a larger
interface needs what the larger interface makes of its questions (`wp_embed`); what some kinds of
questions and notes keep holds at the end of a dialogue that is confined to them
(`wp_of_confined`).
-/

namespace MessageIntake

namespace Dialogue

variable {I J : Interface} {ν α β κ : Type}

/-- **A spec of an interface** over states of type `κ`: what asking a question, or telling a
note, needs of the state before so that a wish holds of the answer and the state after. -/
structure Spec (I : Interface) (ν κ : Type) where
  ask : (question : I.Question) → (I.Answer question → κ → Prop) → κ → Prop
  tell : ν → (κ → Prop) → κ → Prop
  ask_mono : ∀ {question : I.Question} {wish weaker : I.Answer question → κ → Prop},
    (∀ answer state, wish answer state → weaker answer state) →
      ∀ state, ask question wish state → ask question weaker state
  tell_mono : ∀ {note : ν} {wish weaker : κ → Prop}, (∀ state, wish state → weaker state) →
    ∀ state, tell note wish state → tell note weaker state

/-- A spec of a larger interface, read as one of a smaller interface that is embedded in it. -/
def Spec.comap (S : Spec J ν κ) (question : I.Question → J.Question)
    (answer : ∀ q, J.Answer (question q) → I.Answer q) : Spec I ν κ where
  ask q wish := S.ask (question q) fun a => wish (answer q a)
  tell := S.tell
  ask_mono h := S.ask_mono fun a => h (answer _ a)
  tell_mono := S.tell_mono

/-- **What a dialogue needs** of the state before it so that `post` holds of its value and the
state after it. -/
def wp (S : Spec I ν κ) : Dialogue I ν α → (α → κ → Prop) → κ → Prop
  | done value, post => post value
  | tell note rest, post => S.tell note (rest.wp S post)
  | ask question rest, post => S.ask question fun answer => (rest answer).wp S post

variable {S : Spec I ν κ}

@[simp] theorem wp_done (value : α) (post : α → κ → Prop) :
    (done value : Dialogue I ν α).wp S post = post value := rfl

theorem wp_tell (note : ν) (rest : Dialogue I ν α) (post : α → κ → Prop) :
    (tell note rest).wp S post = S.tell note (rest.wp S post) := rfl

theorem wp_ask (question : I.Question) (rest : I.Answer question → Dialogue I ν α)
    (post : α → κ → Prop) :
    (ask question rest).wp S post = S.ask question fun answer => (rest answer).wp S post := rfl

/-- A weaker wish needs no more. -/
theorem wp_mono {d : Dialogue I ν α} {post weaker : α → κ → Prop}
    (h : ∀ value state, post value state → weaker value state) {state : κ}
    (hd : d.wp S post state) : d.wp S weaker state := by
  induction d generalizing state with
  | done value => exact h value state hd
  | tell note rest ih => exact S.tell_mono (fun _ => ih) state hd
  | ask question rest ih => exact S.ask_mono (fun answer _ => ih answer) state hd

/-- **A sequence** needs of its first part what the second part needs. -/
theorem wp_bind (d : Dialogue I ν α) (f : α → Dialogue I ν β) (post : β → κ → Prop) :
    (d.bind f).wp S post = d.wp S fun value => (f value).wp S post := by
  induction d with
  | done value => rfl
  | tell note rest ih => exact congrArg (S.tell note) ih
  | ask question rest ih => exact congrArg (S.ask question) (funext ih)

/-- **An embedded dialogue** needs what the larger interface makes of its questions. -/
theorem wp_embed {S : Spec J ν κ} (question : I.Question → J.Question)
    (answer : ∀ q, J.Answer (question q) → I.Answer q) (d : Dialogue I ν α)
    (post : α → κ → Prop) :
    (d.embed question answer).wp S post = d.wp (S.comap question answer) post := by
  induction d with
  | done value => rfl
  | tell note rest ih => exact congrArg (S.tell note) ih
  | ask q rest ih => exact congrArg (S.ask (question q)) (funext fun a => ih (answer q a))

/-! ### Dialogues of few kinds of questions and notes -/

/-- **A dialogue is confined** if it asks only questions of one kind, and tells only notes of one,
whatever it is answered. -/
def Confined (Q : I.Question → Prop) (P : ν → Prop) : Dialogue I ν α → Prop
  | done _ => True
  | tell note rest => P note ∧ rest.Confined Q P
  | ask question rest => Q question ∧ ∀ answer, (rest answer).Confined Q P

variable {Q : I.Question → Prop} {P : ν → Prop}

/-- A sequence of confined dialogues is confined. -/
theorem Confined.bind {d : Dialogue I ν α} {f : α → Dialogue I ν β} (h : d.Confined Q P)
    (next : ∀ value, (f value).Confined Q P) : (d.bind f).Confined Q P := by
  induction d with
  | done value => exact next value
  | tell note rest ih => exact ⟨h.1, ih h.2⟩
  | ask question rest ih => exact ⟨h.1, fun answer => ih answer (h.2 answer)⟩

/-- A confined dialogue is confined in a larger interface. -/
theorem Confined.embed {R : J.Question → Prop} {question : I.Question → J.Question}
    {answer : ∀ q, J.Answer (question q) → I.Answer q} {d : Dialogue I ν α} (h : d.Confined Q P)
    (kind : ∀ q, Q q → R (question q)) : (d.embed question answer).Confined R P := by
  induction d with
  | done value => trivial
  | tell note rest ih => exact ⟨h.1, ih h.2⟩
  | ask q rest ih => exact ⟨kind q h.1, fun a => ih _ (h.2 _)⟩

/-- Notes of one kind that are told one after the other. -/
theorem confined_sayAll {notes : List ν} (h : ∀ note ∈ notes, P note) :
    (sayAll notes : Dialogue I ν Unit).Confined Q P := by
  induction notes with
  | nil => trivial
  | cons note rest ih => exact ⟨h note (.head _), ih fun other mem => h other (.tail _ mem)⟩

/-- **What a kind of questions and a kind of notes keep** holds at the end of a dialogue that is
confined to them. -/
theorem wp_of_confined {K : κ → Prop}
    (asks : ∀ question c, Q question → K c → S.ask question (fun _ => K) c)
    (tells : ∀ note c, P note → K c → S.tell note K c) {post : α → κ → Prop}
    (ends : ∀ value c, K c → post value c) {d : Dialogue I ν α} (confined : d.Confined Q P) {c : κ}
    (h : K c) : d.wp S post c := by
  induction d generalizing c with
  | done value => exact ends value c h
  | tell note rest ih => exact S.tell_mono (fun _ => ih confined.2) c (tells note c confined.1 h)
  | ask question rest ih =>
    exact S.ask_mono (fun answer _ => ih answer (confined.2 answer)) c
      (asks question c confined.1 h)

/-- Any dialogue is confined to questions and notes of any kind. -/
theorem confined_any (d : Dialogue I ν α) : d.Confined (fun _ => True) fun _ => True := by
  induction d with
  | done value => trivial
  | tell note rest ih => exact ⟨trivial, ih⟩
  | ask question rest ih => exact ⟨trivial, ih⟩

/-- **What every question and every note keeps** holds at the end of any dialogue. -/
theorem wp_of_stable {K : κ → Prop}
    (asks : ∀ question c, K c → S.ask question (fun _ => K) c)
    (tells : ∀ note c, K c → S.tell note K c) {post : α → κ → Prop}
    (ends : ∀ value c, K c → post value c) (d : Dialogue I ν α) {c : κ} (h : K c) :
    d.wp S post c :=
  wp_of_confined (fun question c _ => asks question c) (fun note c _ => tells note c) ends
    d.confined_any h

end Dialogue

end MessageIntake
