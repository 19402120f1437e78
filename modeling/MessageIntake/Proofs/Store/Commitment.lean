import MessageIntake.Proofs.Passage
import MessageIntake.Store.Sql
/-!
# Transactions that commit all or nothing

What an insert says to a server that may answer whatever it likes: any statement may fail, any row
may be missing or hold a null, and the connection may be lost at any time. A statement is `Due` when
all those before it went well, and what becomes of a transaction is read off the statement at which
it ended.

Main statement: the statements are sent in their order, each only if nothing failed before; the
first failure ends the transaction, and is what the insert returns; and the message is returned just
if it was committed (`insert_commits_all_or_nothing`).
-/

namespace MessageIntake.Store.Sql

open Datastore (Fault)
open Dialogue (Passage exchanges passage_done_iff passage_tell_iff passage_ask_iff passage_bind_iff)

variable {σ : Type} {W : World api σ} {s s' : σ} {events : List (Dialogue.Event api Telemetry σ)}
  {event : AcceptedEvent} {result : Except Fault Message}

/-! ### What was sent and answered -/

/-- A statement that was sent, with its answer. -/
abbrev Exchange := Dialogue.Exchange api

/-- The fault of a step that failed. -/
def faultOf? {α : Type} : Except Fault α → Option Fault
  | .ok _ => none
  | .error fault => some fault

/-- **What is wrong with an answer**: a fault of the server, or a row that is missing or cannot be
read. -/
def fault? : Exchange → Option Fault
  | ⟨.begin, answer⟩ | ⟨.commit, answer⟩ | ⟨.addCounter _, answer⟩ | ⟨.setCounter .., answer⟩ =>
    faultOf? answer
  | ⟨.rollback, _⟩ => none
  | ⟨.findByEventId _, answer⟩ | ⟨.findByClientMsgId _, answer⟩ => faultOf? (foundMessage? answer)
  | ⟨.readCounter _, answer⟩ => faultOf? (lastSeq? answer)
  | ⟨.lockCounter _, answer⟩ => faultOf? (lockedValue? answer)
  | ⟨.insertMessage .., answer⟩ => faultOf? (insertedMessage? answer)

/-- A rollback. -/
def rolledBack : Exchange := ⟨.rollback, ()⟩

/-- **The statements that were sent**, rollbacks apart. -/
def sent (l : List Exchange) : List Statement :=
  (l.map (·.question)).filter (· ≠ .rollback)

/-- **The statements of an insert** in their order, `n` being the last number given out. -/
def plan (event : AcceptedEvent) (n : Int) : List Statement :=
  [ .begin, .addCounter event.conversationId, .lockCounter event.conversationId,
    .setCounter event.conversationId (n + 1), .insertMessage event (n + 1), .commit ]

/-- **What these statements bind**, one after the other: the counter's ones the conversation, and
the message all that the event carries. -/
def bindings (event : AcceptedEvent) (n : Int) : List (List Parameter) :=
  [ [], [.text event.conversationId], [.text event.conversationId],
    [.text event.conversationId, .int (n + 1)],
    [ .text event.eventId, event.clientMsgId.elim .null .text, .text event.conversationId,
      .text event.senderId, event.recipientId.elim .null .text, .text event.content,
      event.attachmentUrl.elim .null .text, .int (n + 1), .time event.createdAt ],
    [] ]

theorem parameters_plan (event : AcceptedEvent) (n : Int) :
    (plan event n).map Statement.parameters = bindings event n := by
  have optional : ∀ text : Option String,
      Statement.optionalText text = text.elim .null .text := by
    rintro (_ | _)
    all_goals rfl
  simp only [plan, bindings, List.map_cons, List.map_nil, Statement.parameters, optional]

/-- The counter was locked, and its value is `n`. -/
def Reads (event : AcceptedEvent) (l : List Exchange) (n : Int) : Prop :=
  ∃ answer, ⟨.lockCounter event.conversationId, answer⟩ ∈ l ∧ lockedValue? answer = .ok n

/-- The message was inserted, and the row that came back is `message`. -/
def Returns (event : AcceptedEvent) (l : List Exchange) (message : Message) : Prop :=
  ∃ n answer, ⟨.insertMessage event n, answer⟩ ∈ l ∧ insertedMessage? answer = .ok message

theorem Reads.mono {l l' : List Exchange} {n : Int} (h : Reads event l n) (kept : l ⊆ l') :
    Reads event l' n :=
  h.imp fun _ found => found.imp_left fun mem => kept mem

theorem Returns.mono {l l' : List Exchange} {message : Message} (h : Returns event l message)
    (kept : l ⊆ l') : Returns event l' message :=
  h.imp fun _ returned => returned.imp fun _ found => found.imp_left fun mem => kept mem

/-! ### One statement after the other -/

/-- **A statement is due** after exchanges that all went well. -/
inductive Due (event : AcceptedEvent) : List Exchange → Statement → Prop where
  | begin : Due event [] .begin
  | add : Due event [⟨.begin, .ok ()⟩] (.addCounter event.conversationId)
  | lock :
      Due event [⟨.begin, .ok ()⟩, ⟨.addCounter event.conversationId, .ok ()⟩]
        (.lockCounter event.conversationId)
  | set {locked : Except Fault (Option CounterRow)} {n : Int} (read : lockedValue? locked = .ok n) :
      Due event
        [⟨.begin, .ok ()⟩, ⟨.addCounter event.conversationId, .ok ()⟩,
          ⟨.lockCounter event.conversationId, locked⟩]
        (.setCounter event.conversationId (n + 1))
  | insert {locked : Except Fault (Option CounterRow)} {n : Int}
      (read : lockedValue? locked = .ok n) :
      Due event
        [⟨.begin, .ok ()⟩, ⟨.addCounter event.conversationId, .ok ()⟩,
          ⟨.lockCounter event.conversationId, locked⟩,
          ⟨.setCounter event.conversationId (n + 1), .ok ()⟩]
        (.insertMessage event (n + 1))
  | commit {locked : Except Fault (Option CounterRow)} {n : Int}
      {inserted : Except Fault (Option MessageRow)} {message : Message}
      (read : lockedValue? locked = .ok n) (returned : insertedMessage? inserted = .ok message) :
      Due event
        [⟨.begin, .ok ()⟩, ⟨.addCounter event.conversationId, .ok ()⟩,
          ⟨.lockCounter event.conversationId, locked⟩,
          ⟨.setCounter event.conversationId (n + 1), .ok ()⟩,
          ⟨.insertMessage event (n + 1), inserted⟩]
        .commit

/-- **What becomes of a transaction**: it ends at the first statement that fails, or it is
committed. -/
inductive Transacts (event : AcceptedEvent) : List Exchange → Except Fault Message → Prop where
  | failed {l : List Exchange} {q : Statement} {answer : api.Answer q} {fault : Fault}
      (due : Due event l q) (fails : fault? ⟨q, answer⟩ = some fault) :
      Transacts event (l ++ [⟨q, answer⟩] ++ [rolledBack]) (.error fault)
  | committed {l : List Exchange} {message : Message} (due : Due event l .commit)
      (returns : Returns event l message) :
      Transacts event (l ++ [⟨.commit, .ok ()⟩]) (.ok message)

/-- **A statement that is due** is followed by what is next, or by a rollback. -/
theorem transacts_of_ask {α : Type} {l : List Exchange} {q : Statement}
    (read : api.Answer q → Except Fault α) {next : α → Talk (Except Fault Message)}
    (due : Due event l q) (faults : ∀ answer, fault? ⟨q, answer⟩ = faultOf? (read answer))
    (goes : ∀ answer a m later, read answer = .ok a → Passage W (next a) m later result s' →
      Transacts event (l ++ [⟨q, answer⟩] ++ exchanges later) result)
    (h : Passage W (.ask q fun answer => orRollback next (read answer)) s events result s') :
    Transacts event (l ++ exchanges events) result := by
  obtain ⟨answer, mid, later, rfl, -, rest⟩ := passage_ask_iff.1 h
  rw [Dialogue.exchanges_answered, List.append_cons]
  cases same : read answer with
  | ok a =>
    rw [same] at rest
    exact goes answer a mid later same rest
  | error fault =>
    rw [same] at rest
    obtain ⟨_, _, _, rfl, -, ends⟩ := passage_ask_iff.1 rest
    obtain ⟨rfl, rfl, rfl⟩ := passage_done_iff.1 ends
    exact .failed due (by rw [faults, same]; rfl)

/-- **An insert** sends one statement after the other. -/
theorem transacts_of_insertSequenced
    (h : Passage W (insertSequenced event) s events result s') :
    Transacts event (exchanges events) result := by
  refine transacts_of_ask id .begin (fun _ => rfl) ?_ h
  rintro _ _ _ _ rfl begun
  refine transacts_of_ask id .add (fun _ => rfl) ?_ begun
  rintro _ _ _ _ rfl added
  refine transacts_of_ask lockedValue? .lock (fun _ => rfl) ?_ added
  rintro _ n _ _ read locked
  refine transacts_of_ask id (.set read) (fun _ => rfl) ?_ locked
  rintro _ _ _ _ rfl raised
  obtain ⟨_, rfl, told⟩ := passage_tell_iff.1 raised
  rw [Dialogue.exchanges_told]
  refine transacts_of_ask insertedMessage? (.insert read) (fun _ => rfl) ?_ told
  rintro _ message _ _ returned inserted
  refine transacts_of_ask id (.commit read returned) (fun _ => rfl) ?_ inserted
  rintro _ _ _ _ rfl committed
  obtain ⟨rfl, rfl, rfl⟩ := passage_done_iff.1 committed
  exact .committed (.commit read returned) ⟨n + 1, _, by simp, returned⟩

/-! ### All or nothing -/

/-- **A transaction is all or nothing**, by what was sent and answered in it and what it came to. -/
structure AllOrNothing (event : AcceptedEvent) (l : List Exchange)
    (result : Except Failure Message) : Prop where
  /-- Nothing is sent but the statements of an insert, in their order. -/
  planned : ∃ n, (∀ m, Reads event l m → m = n) ∧ sent l <+: plan event n
  /-- What is bound is bound in that order. -/
  bound : ∃ n, (∀ m, Reads event l m → m = n) ∧
    (sent l).map Statement.parameters <+: bindings event n
  /-- Both numbers that are written come next after the value that was read. -/
  numbered : ∀ q ∈ sent l, ∀ k, .int k ∈ q.parameters → ∃ n, Reads event l n ∧ k = n + 1
  /-- It is committed only if all else was sent, and nothing of it failed. -/
  committing : .commit ∈ sent l →
    (∃ n, Reads event l n ∧ sent l = plan event n) ∧ (∃ message, Returns event l message) ∧
      ∀ e ∈ l, e.question ≠ .commit → fault? e = none
  /-- The first failure is returned, and nothing follows it but a rollback. -/
  failing : ∀ e ∈ l, ∀ fault, fault? e = some fault →
    result = .error fault.failure ∧ ∃ before, l = before ++ [e, rolledBack] ∧
      ∀ e' ∈ before, fault? e' = none
  /-- What fails, fails for a statement that did. -/
  error_iff : ∀ failure, result = .error failure ↔
    ∃ e ∈ l, ∃ fault, fault? e = some fault ∧ fault.failure = failure
  /-- It is rolled back just if a statement failed. -/
  rolledBack_iff : rolledBack ∈ l ↔ ∃ e ∈ l, ∃ fault, fault? e = some fault
  /-- A message is returned just if it was committed, and it is the one of the row. -/
  ok_iff : ∀ message, result = .ok message ↔
    ⟨.commit, .ok ()⟩ ∈ l ∧ Returns event l message

/-- Nothing failed before a statement that is due. -/
theorem Due.faultless {l : List Exchange} {q : Statement} (due : Due event l q) :
    ∀ e ∈ l, fault? e = none := by
  cases due <;> simp_all [fault?, faultOf?]

/-- **What is sent** follows the plan, with the number that was read. -/
theorem Due.sent_prefix {l : List Exchange} {q : Statement} (due : Due event l q)
    (answer : api.Answer q) :
    ∃ n, (∀ m, Reads event (l ++ [⟨q, answer⟩]) m → m = n) ∧
      sent (l ++ [⟨q, answer⟩]) <+: plan event n := by
  cases due with
  | lock =>
    refine ⟨(lockedValue? answer).toOption.getD 0, ?_, by simp [sent, plan]⟩
    rintro m ⟨answer', mem, read⟩
    obtain rfl : answer' = answer := by simpa using mem
    simp [read, Except.toOption]
  | begin | add => exact ⟨0, by simp [Reads], by simp [sent, plan]⟩
  | @set _ n read | @insert _ n read | @commit _ n _ _ read =>
    exact ⟨n, by simp_all [Reads], by simp [sent, plan]⟩

/-- What is sent as planned binds what the plan does. -/
theorem bound_of_planned {l : List Exchange}
    (planned : ∃ n, (∀ m, Reads event l m → m = n) ∧ sent l <+: plan event n) :
    ∃ n, (∀ m, Reads event l m → m = n) ∧
      (sent l).map Statement.parameters <+: bindings event n := by
  obtain ⟨n, read, first⟩ := planned
  exact ⟨n, read, parameters_plan event n ▸ first.map Statement.parameters⟩

/-- **Every number that is written** comes next after the one that was read. -/
theorem Due.numbered {l : List Exchange} {q : Statement} (due : Due event l q)
    (answer : api.Answer q) :
    ∀ p ∈ sent (l ++ [⟨q, answer⟩]), ∀ k, .int k ∈ p.parameters →
      ∃ n, Reads event l n ∧ k = n + 1 := by
  have texts : ∀ (text : Option String) k, Parameter.int k ≠ Statement.optionalText text := by
    rintro (_ | _) k <;> simp [Statement.optionalText]
  cases due <;> simp_all [sent, Statement.parameters, Reads]

/-- Nothing that ends a transaction was sent before a statement that is due. -/
theorem Due.open {l : List Exchange} {q : Statement} (due : Due event l q) :
    ∀ e ∈ l, e.question ≠ .commit ∧ e.question ≠ .rollback := by
  cases due <;> simp

/-- Before the commit all else was sent, and a message was returned. -/
theorem Due.whole {l : List Exchange} (due : Due event l .commit) (answer : Except Fault Unit) :
    (∃ n, Reads event l n ∧ sent (l ++ [⟨.commit, answer⟩]) = plan event n) ∧
      ∃ message, Returns event l message := by
  cases due with
  | @commit _ n _ _ read returned =>
    exact ⟨⟨n, ⟨_, by simp, read⟩, by simp [sent, plan]⟩, _, n + 1, _, by simp, returned⟩

/-- No more than one message is inserted. -/
theorem Due.returns_unique {l : List Exchange} (due : Due event l .commit)
    {message message' : Message} (h : Returns event l message) (h' : Returns event l message') :
    message' = message := by
  cases due with
  | commit =>
    obtain ⟨_, _, mem, read⟩ := h
    obtain ⟨_, _, mem', read'⟩ := h'
    simp_all

@[simp] theorem sent_rolledBack (l : List Exchange) : sent (l ++ [rolledBack]) = sent l := by
  simp [sent, rolledBack]

@[simp] theorem reads_rolledBack_iff {l : List Exchange} {n : Int} :
    Reads event (l ++ [rolledBack]) n ↔ Reads event l n := by
  simp [Reads, rolledBack]

/-- A transaction that failed is all or nothing. -/
theorem Due.allOrNothing {l : List Exchange} {q : Statement} {answer : api.Answer q}
    {fault : Fault} (due : Due event l q) (fails : fault? ⟨q, answer⟩ = some fault) :
    AllOrNothing event (l ++ [⟨q, answer⟩] ++ [rolledBack]) (.error fault.failure) := by
  -- of all exchanges only the one with `q` failed
  have only : ∀ e ∈ l ++ [⟨q, answer⟩] ++ [rolledBack], ∀ fault', fault? e = some fault' →
      e = ⟨q, answer⟩ ∧ fault' = fault := by
    intro e mem fault' fails'
    simp only [List.mem_append, List.mem_singleton] at mem
    obtain (mem | rfl) | rfl := mem
    · simp [due.faultless e mem] at fails'
    · exact ⟨rfl, by simpa [fails] using fails'.symm⟩
    · cases fails'
  have kept : l ⊆ l ++ [⟨q, answer⟩] ++ [rolledBack] := fun e mem => by simp [mem]
  have planned : ∃ n, (∀ m, Reads event (l ++ [⟨q, answer⟩] ++ [rolledBack]) m → m = n) ∧
      sent (l ++ [⟨q, answer⟩] ++ [rolledBack]) <+: plan event n := by
    simp only [reads_rolledBack_iff, sent_rolledBack]
    exact due.sent_prefix answer
  exact {
    planned
    bound := bound_of_planned planned
    numbered := fun p mem k written =>
      (due.numbered answer p (sent_rolledBack _ ▸ mem) k written).imp fun n h =>
        h.imp_left fun read => read.mono kept
    committing := by
      intro mem
      obtain rfl : .commit = q := by
        simp only [sent_rolledBack] at mem
        simp only [sent, List.mem_filter, List.mem_map, List.mem_append, List.mem_singleton] at mem
        obtain ⟨⟨e, mem | rfl, same⟩, -⟩ := mem
        · exact absurd same (due.open e mem).1
        · exact same.symm
      obtain ⟨⟨n, reads, whole⟩, message, returns⟩ := due.whole answer
      refine ⟨⟨n, reads.mono kept, (sent_rolledBack _).trans whole⟩, ⟨message, returns.mono kept⟩,
        fun e mem other => ?_⟩
      cases fails' : fault? e with
      | none => rfl
      | some fault' => exact absurd (congrArg _ (only e mem fault' fails').1) other
    failing := by
      intro e mem fault' fails'
      obtain ⟨rfl, rfl⟩ := only e mem fault' fails'
      exact ⟨rfl, l, by simp, due.faultless⟩
    error_iff := by
      intro failure
      constructor
      · rintro ⟨⟩
        exact ⟨_, by simp, fault, fails, rfl⟩
      · rintro ⟨e, mem, fault', fails', rfl⟩
        rw [(only e mem fault' fails').2]
    rolledBack_iff := iff_of_true (by simp) ⟨_, by simp, fault, fails⟩
    ok_iff := by
      refine fun message => iff_of_false nofun fun ⟨mem, _⟩ => ?_
      simp only [List.mem_append, List.mem_singleton] at mem
      obtain (mem | mem) | mem := mem
      · exact (due.open _ mem).1 rfl
      · cases mem
        cases fails
      · cases mem }

/-- **What becomes of a transaction** is all or nothing. -/
theorem Transacts.allOrNothing {l : List Exchange} (h : Transacts event l result) :
    AllOrNothing event l (result.mapError Fault.failure) := by
  cases h with
  | failed due fails => exact due.allOrNothing fails
  | @committed l message due returns =>
    have faultless : ∀ e ∈ l ++ [⟨.commit, .ok ()⟩], fault? e = none := by
      simp only [List.mem_append, List.mem_singleton]
      rintro e (mem | rfl)
      · exact due.faultless e mem
      · rfl
    have kept : l ⊆ l ++ [⟨.commit, .ok ()⟩] := List.subset_append_left ..
    have none : ¬∃ e ∈ l ++ [⟨.commit, .ok ()⟩], ∃ fault, fault? e = some fault := by
      rintro ⟨e, mem, fault, fails⟩
      simp [faultless e mem] at fails
    obtain ⟨⟨n, reads, whole⟩, -⟩ := due.whole (.ok ())
    exact {
      planned := due.sent_prefix _
      bound := bound_of_planned (due.sent_prefix _)
      numbered := fun p mem k written =>
        (due.numbered _ p mem k written).imp fun n h => h.imp_left fun read => read.mono kept
      committing := fun _ => ⟨⟨n, reads.mono kept, whole⟩, ⟨message, returns.mono kept⟩,
        fun e mem _ => faultless e mem⟩
      failing := fun e mem fault fails => absurd ⟨e, mem, fault, fails⟩ none
      error_iff := fun failure => iff_of_false nofun fun ⟨e, mem, fault, fails, _⟩ =>
        none ⟨e, mem, fault, fails⟩
      rolledBack_iff := iff_of_false (fun mem => by
        simp only [List.mem_append, List.mem_singleton] at mem
        obtain mem | mem := mem
        · exact (due.open _ mem).2 rfl
        · cases mem) none
      ok_iff := by
        refine fun message' => ⟨?_, fun ⟨_, returns'⟩ => ?_⟩
        · rintro ⟨⟩
          exact ⟨by simp, returns.mono kept⟩
        · have same : Returns event l message' := by simpa [Returns] using returns'
          exact congrArg _ (due.returns_unique same returns) }

end MessageIntake.Store.Sql
