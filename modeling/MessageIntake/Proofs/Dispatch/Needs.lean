import MessageIntake.Dispatch
import MessageIntake.Proofs.Precondition
/-!
# What storing and dispatching need

How `Persistence.persist` and `Dispatch.dispatch` are read against a spec of whatever
surroundings they are held in. Each reading asks of the spec only what the answers may be; a
*sign* `K` says of a message, or of an outcome, what is to hold of it at the end.

Main statements: an event is stored under a message that a look found or an insert returned
(`wp_persist`); a record is acknowledged as stored only with the outcome of storing it
(`Dispatch.wp_dispatch`).
-/

namespace MessageIntake

variable {κ : Type}

namespace Persistence

variable {S : Dialogue.Spec Store.api Telemetry κ} {event : AcceptedEvent}

/-- Looking for an event finds a message that bears the sign of the looks. -/
theorem wp_findExisting_of_looks {K : Message → κ → Prop}
    (byEvent : ∀ c, S.ask (.findByEventId event.eventId)
      (fun a d => ∀ m, a = .ok (some m) → K m d) c)
    (byClient : ∀ id c, event.clientMsgId = some id →
      S.ask (.findByClientMsgId id) (fun a d => ∀ m, a = .ok (some m) → K m d) c) (c : κ) :
    (findExisting event).wp S (fun r d => ∀ m, r = .ok (some m) → K m d) c := by
  refine S.ask_mono (fun a d sign => ?_) c (byEvent c)
  match a with
  | .error _ => simp
  | .ok (some m) => exact sign
  | .ok none =>
    cases hid : event.clientMsgId with
    | none => simp
    | some id => exact byClient id d hid

/-- **Storing an event** ends with a message that a look found or an insert returned. -/
theorem wp_persist (K : Message → κ → Prop)
    (tells : ∀ note c, S.tell note (fun _ => True) c)
    (keeps : ∀ note m c, K m c → S.tell note (K m) c)
    (byEvent : ∀ c, S.ask (.findByEventId event.eventId)
      (fun a d => ∀ m, a = .ok (some m) → K m d) c)
    (byClient : ∀ id c, event.clientMsgId = some id →
      S.ask (.findByClientMsgId id) (fun a d => ∀ m, a = .ok (some m) → K m d) c)
    (inserts : ∀ c, S.ask (.insert event) (fun a d => ∀ m, a = .ok m → K m d) c) (c : κ) :
    (persist event).wp S (fun r d => ∀ o, r = .ok o → K o.message d) c := by
  -- a round ends with a message that bears the sign, or goes on as it is told
  have round_of_refused : ∀ (refused : Failure → Talk Outcome),
      (∀ failure c, (refused failure).wp S (fun r d => ∀ o, r = .ok o → K o.message d) c) →
        ∀ c, (round event refused).wp S (fun r d => ∀ o, r = .ok o → K o.message d) c := by
    intro refused hrefused c
    rw [round, Dialogue.wp_bind]
    refine Dialogue.wp_mono (fun r d found => ?_) (wp_findExisting_of_looks byEvent byClient c)
    match r with
    | .error _ => simp
    | .ok (some m) =>
      refine S.tell_mono (fun e sign o eq => ?_) d (keeps _ m d (found m rfl))
      cases eq
      exact sign
    | .ok none =>
      refine S.ask_mono (fun a e sign => ?_) d (inserts d)
      match a with
      | .error failure => exact hrefused failure e
      | .ok m =>
        refine S.tell_mono (fun e sign o eq => ?_) e (keeps _ m e (sign m rfl))
        cases eq
        exact sign
  have all : ∀ relookups left c, (rounds event relookups left).wp S
      (fun r d => ∀ o, r = .ok o → K o.message d) c := by
    intro relookups left
    induction left generalizing relookups with
    | zero => exact round_of_refused _ fun _ _ => by simp
    | succ left ih =>
      refine round_of_refused _ fun failure c => ?_
      split
      · exact S.tell_mono (fun d _ => ih _ d) c (tells _ c)
      · simp
  exact all 0 maxRelookups c

/-- **An event whose `eventId` is found**, unless the look fails, is stored as a duplicate of
what was found, and nothing else is asked. -/
theorem wp_persist_of_found {row : Message} {c : κ}
    (tells : ∀ note c, S.tell note (fun _ => True) c)
    (found : S.ask (.findByEventId event.eventId)
      (fun a _ => a = .ok (some row) ∨ ∃ failure, a = .error failure) c) :
    (persist event).wp S (fun r _ => ∀ o, r = .ok o → o = ⟨row, true⟩) c := by
  refine S.ask_mono (fun a d answer => ?_) c found
  rcases answer with rfl | ⟨failure, rfl⟩
  · exact S.tell_mono (fun e _ => by simp [eq_comm]) d (tells _ d)
  · exact fun o failed => by cases failed

end Persistence

namespace Dispatch

/-- **A lenient spec** lets notes be told, and lets everything but the store be asked, without
more ado. -/
structure Lenient (S : Dialogue.Spec api Telemetry κ) : Prop where
  tell : ∀ note c, S.tell note (fun _ => True) c
  ask : ∀ question c, (∀ q, question ≠ .store q) → S.ask question (fun _ _ => True) c

variable {S : Dialogue.Spec api Telemetry κ} {policy : RetryPolicy} {record : Record}

section

variable {α : Type} {post : α → κ → Prop}

/-- What holds after a note, wherever it is told. -/
theorem Lenient.wp_tell (h : Lenient S) {note : Telemetry} {rest : Talk α}
    (after : ∀ d, rest.wp S post d) (c : κ) : (Dialogue.tell note rest).wp S post c :=
  S.tell_mono (fun d _ => after d) c (h.tell note c)

/-- What holds after a question that is not for the store, whatever is answered. -/
theorem Lenient.wp_ask (h : Lenient S) {question : Question}
    {rest : api.Answer question → Talk α} (aside : ∀ q, question ≠ .store q)
    (after : ∀ a d, (rest a).wp S post d) (c : κ) :
    (Dialogue.ask question rest).wp S post c :=
  S.ask_mono (fun a d _ => after a d) c (h.ask question c aside)

/-- A record that is left for another delivery is not acknowledged as stored. -/
theorem wp_retryLater (h : Lenient S) (attempt : Nat) (reason : Reason) (c : κ) :
    (retryLater policy attempt reason).wp S (fun disposition _ => ∀ o, disposition ≠ .acked o)
      c := by
  refine h.wp_tell (fun d => ?_) c
  rw [Dialogue.wp_bind, drawFactor]
  split
  · exact h.wp_ask (by simp) (fun _ _ => by simp) d
  · simp

/-- A record that is dead-lettered is not acknowledged as stored. -/
theorem wp_deadLetter (h : Lenient S) (failureClass : FailureClass) (reason : Reason)
    (detail : String) (attempt : Nat) (c : κ) :
    (deadLetter policy record failureClass reason detail attempt).wp S
      (fun disposition _ => ∀ o, disposition ≠ .acked o) c := by
  refine h.wp_ask (by simp) (fun failedAt d => ?_) c
  refine h.wp_ask (by simp) (fun published e => ?_) d
  match published with
  | .ok () => exact h.wp_tell (fun _ => by simp) e
  | .error failure => exact h.wp_tell (wp_retryLater h _ _) e

/-- **After a failure** a record is not acknowledged as stored. -/
theorem wp_handleFailure (h : Lenient S) (stage : Stage) (failure : Failure) (c : κ) :
    (handleFailure policy record stage failure).wp S
      (fun disposition _ => ∀ o, disposition ≠ .acked o) c := by
  rw [handleFailure]
  split
  · exact h.wp_tell (wp_deadLetter h _ _ _ _) c
  · split
    · exact h.wp_tell (wp_deadLetter h _ _ _ _) c
    · exact h.wp_tell (wp_retryLater h _ _) c

end

/-- Notes that are told one after the other keep a sign. -/
theorem wp_sayAll {K : κ → Prop} (keeps : ∀ note c, K c → S.tell note K c)
    (notes : List Telemetry) {c : κ} (h : K c) :
    (Dialogue.sayAll notes : Talk Unit).wp S (fun _ => K) c := by
  induction notes generalizing c with
  | nil => exact h
  | cons note rest ih => exact S.tell_mono (fun _ => ih) c (keeps note c h)

/-- **Dispatching a record**: it is acknowledged as stored only with the outcome of storing the
event that was accepted from it. -/
theorem wp_dispatch (K : Outcome → κ → Prop) (h : Lenient S)
    (keeps : ∀ note o c, K o c → S.tell note (K o) c)
    (persists : ∀ event receivedAt accepted,
      ChatEvent.ofPayload? record.payload = .ok event → event.accept receivedAt = .ok accepted →
        ∀ c, (withStore (Persistence.persist accepted)).wp S (fun r d => ∀ o, r = .ok o → K o d) c)
    (c : κ) :
    (dispatch policy record).wp S (fun disposition d => ∀ o, disposition = .acked o → K o d)
      c := by
  -- only an accepted event comes to the store, and only the store's outcome comes out
  have piped : (pipeline record).wp S (fun r d => ∀ o, r = .ok o → K o d) c := by
    refine h.wp_tell (fun d => ?_) c
    cases read : ChatEvent.ofPayload? record.payload with
    | error fault => simp
    | ok event =>
      refine h.wp_tell (h.wp_ask (by simp) fun receivedAt d => ?_) d
      cases accept : event.accept receivedAt with
      | error failure => simp
      | ok accepted =>
        refine h.wp_tell (fun d => ?_) d
        rw [Dialogue.wp_bind]
        refine Dialogue.wp_mono (fun r e sign => ?_)
          (persists event receivedAt accepted read accept d)
        match r with
        | .error _ => simp
        | .ok outcome =>
          rintro o ⟨⟩
          exact sign outcome rfl
  rw [dispatch, Dialogue.wp_bind]
  refine Dialogue.wp_mono (fun r d sign => ?_) piped
  rw [Dialogue.wp_bind]
  match r with
  | .ok outcome =>
    rw [settle, Dialogue.wp_bind]
    refine Dialogue.wp_mono (fun _ e sign => ?_) (wp_sayAll (keeps · outcome) _ (sign outcome rfl))
    refine S.tell_mono (fun f sign => S.tell_mono (fun g sign => ?_) f (keeps _ outcome f sign)) e
      (keeps _ outcome e sign)
    rintro o ⟨⟩
    exact sign
  | .error (stage, failure) =>
    refine h.wp_tell (fun e => ?_) d
    refine Dialogue.wp_mono (fun disposition f unacked => ?_) (wp_handleFailure h stage failure e)
    exact h.wp_tell (h.wp_tell fun _ => by simp [unacked]) f

end Dispatch

end MessageIntake
