import Mathlib.Logic.Function.Basic
import MessageIntake.Proofs.Gathering
import MessageIntake.Store.Sql
/-!
# Statements that wait for locks

The server seen as the locks that it gives to transactions, each until its transaction ends: the
counter row of a conversation, and the unique keys of a message. A statement asks for its locks
one after the other before it runs, so that a transaction may hold some of them while it waits
for the next. Waiting is that there is no answer yet.

What the statements read and write is left open here. Of the tables only this is kept, which
counters are committed, as a counter that is committed is not inserted anew.

Main definition: `inserting`, any number of inserts at the same time over such a server, with
faults, rollbacks and lost transactions at any point.
-/

namespace MessageIntake.Store.Sql

open Datastore (Fault)
open Function (update update_self update_of_ne)

/-! ### Locks -/

/-- **A lock**: what a transaction keeps to itself until it ends. -/
inductive Lock where
  | counter (conversationId : String)
  | eventId (id : String)
  | clientMsgId (id : String)
  deriving DecidableEq, Repr

/-- **The order of locks.** -/
def Lock.rank : Lock → Nat
  | counter _ => 0
  | eventId _ => 1
  | clientMsgId _ => 2

theorem Lock.rank_le (lock : Lock) : lock.rank ≤ 2 := by
  cases lock <;> simp [rank]

/-- **A lock that a statement needs**: on a row that it inserts unless there is one, or in any
case. -/
inductive Need where
  | make (conversationId : String)
  | take (lock : Lock)

/-- The lock that is needed. -/
def Need.lock : Need → Lock
  | make conversationId => .counter conversationId
  | take lock => lock

namespace Statement

/-- **The locks that a statement needs**, in the order in which it asks for them. -/
def needs : Statement → List Need
  | addCounter conversationId => [.make conversationId]
  | lockCounter conversationId => [.take (.counter conversationId)]
  | setCounter conversationId _ => [.take (.counter conversationId)]
  | insertMessage event _ =>
    .take (.eventId event.eventId) ::
      (event.clientMsgId.map fun id => .take (.clientMsgId id)).toList
  | begin | commit | rollback | findByEventId _ | findByClientMsgId _ | readCounter _ => []

/-- The answer to a statement that a fault has kept from running. -/
def refused : (q : Statement) → Fault → api.Answer q
  | rollback, _ => ()
  | begin, fault | commit, fault | findByEventId _, fault | findByClientMsgId _, fault
  | readCounter _, fault | addCounter _, fault | lockCounter _, fault | setCounter .., fault
  | insertMessage .., fault => .error fault

end Statement

/-! ### Asking for locks -/

/-- **What a statement asks for**: a lock, and then that it runs. -/
inductive Request where
  | need (need : Need)
  | run (statement : Statement)

/-- The interface of a server that gives out locks. -/
@[reducible] def Request.api : Interface where
  Question := Request
  Answer
    | need _ => Except Fault Unit
    | run q => Sql.api.Answer q

/-- The answer that a fault makes of a request. -/
def Request.refused : (r : Request) → Fault → Request.api.Answer r
  | need _, fault => .error fault
  | run q, fault => q.refused fault

/-- Dialogues with a server that gives out locks. -/
abbrev LockTalk (α : Type) := Dialogue Request.api Telemetry α

/-- Asking for one lock after the other, up to the first fault. -/
def acquire : List Need → LockTalk (Except Fault Unit)
  | [] => .done (.ok ())
  | need :: later =>
    .ask (.need need) fun
      | .ok () => acquire later
      | .error fault => .done (.error fault)

/-- **How a statement is served**: it asks for its locks, and then it runs. -/
def serve (q : Statement) : LockTalk (api.Answer q) :=
  (acquire q.needs).bind fun
    | .ok () => .ask (.run q) .done
    | .error fault => .done (q.refused fault)

/-- A dialogue with an SQL server, each of its statements served. -/
def served {α : Type} (d : Talk α) : LockTalk α := d.interpret serve

/-! ### Giving out locks -/

variable {ι : Type}

/-- **A server that gives out locks**: the conversations whose counter is committed, and the locks
of each open transaction. -/
structure LockServer (ι : Type) where
  counters : String → Prop
  held : ι → Option (List Lock)

namespace LockServer

/-- The server with some counters, and no transaction. -/
def idle (counters : String → Prop) : LockServer ι := ⟨counters, fun _ => none⟩

/-- **No other transaction** holds the lock. -/
def Free (s : LockServer ι) (who : ι) (lock : Lock) : Prop :=
  ∀ other locks, s.held other = some locks → lock ∈ locks → other = who

/-- **A need goes without its lock**: the counter that was to be made is committed. -/
def Spares (s : LockServer ι) : Need → Prop
  | .make conversationId => s.counters conversationId
  | .take _ => False

/-- **Some open transactions are lost**, and their locks are free. -/
structure Loses (s s' : LockServer ι) : Prop where
  counters : s'.counters = s.counters
  held : ∀ who locks, s'.held who = some locks → s.held who = some locks

variable [DecidableEq ι]

/-- The server with the locks of a transaction. -/
def set (s : LockServer ι) (who : ι) (locks : List Lock) : LockServer ι :=
  { s with held := update s.held who (some locks) }

/-- The server without a transaction. -/
def drop (s : LockServer ι) (who : ι) : LockServer ι :=
  { s with held := update s.held who none }

/-- The server after a commit: the counters that the transaction had locked are there for good. -/
def commit (s : LockServer ι) (who : ι) (locks : List Lock) : LockServer ι where
  counters conversationId := s.counters conversationId ∨ .counter conversationId ∈ locks
  held := update s.held who none

section

variable {s : LockServer ι} {who other : ι} {locks : List Lock}

@[simp] theorem held_set_self : (s.set who locks).held who = some locks := update_self ..

@[simp] theorem held_drop_self : (s.drop who).held who = none := update_self ..

@[simp] theorem held_commit_self : (s.commit who locks).held who = none := update_self ..

theorem held_set_of_ne (ne : other ≠ who) : (s.set who locks).held other = s.held other :=
  update_of_ne ne ..

theorem held_drop_of_ne (ne : other ≠ who) : (s.drop who).held other = s.held other :=
  update_of_ne ne ..

theorem held_commit_of_ne (ne : other ≠ who) : (s.commit who locks).held other = s.held other :=
  update_of_ne ne ..

end

/-- A lock is given out, if it is free, or is not needed. -/
def Gives (s : LockServer ι) (who : ι) (need : Need) (s' : LockServer ι) : Prop :=
  ∃ locks, s.held who = some locks ∧
    (s.Spares need ∧ s' = s ∨
      ¬s.Spares need ∧ s.Free who need.lock ∧ s' = s.set who (need.lock :: locks))

/-- **What the server answers where nothing fails.** -/
def Grants (who : ι) (r : Request) (s : LockServer ι) (a : Request.api.Answer r)
    (s' : LockServer ι) : Prop :=
  match r, a with
  | .need need, a => a = .ok () ∧ s.Gives who need s'
  | .run .begin, a => a = .ok () ∧ s' = s.set who []
  | .run .commit, a => a = .ok () ∧ ∃ locks, s.held who = some locks ∧ s' = s.commit who locks
  | .run .rollback, _ => s' = s.drop who
  | .run (.findByEventId _), _ | .run (.findByClientMsgId _), _ | .run (.readCounter _), _
  | .run (.addCounter _), _ | .run (.lockCounter _), _ | .run (.setCounter ..), _
  | .run (.insertMessage ..), _ => s' = s

/-- **What the server may answer.** Some transactions may be lost before. A fault may come before
the effect, after it, or with the transaction gone; but a rollback ends the transaction. -/
def Answers (who : ι) (r : Request) (s : LockServer ι) (a : Request.api.Answer r)
    (s' : LockServer ι) : Prop :=
  ∃ s₀, s.Loses s₀ ∧ (Grants who r s₀ a s' ∨ (∃ fault, a = r.refused fault) ∧
    (r ≠ .run .rollback ∧ s' = s₀ ∨ s' = s₀.drop who ∨ ∃ b, Grants who r s₀ b s'))

end LockServer

/-! ### Inserts at the same time -/

variable [DecidableEq ι]

/-- **Inserts at the same time**, each of an event of its own. -/
def inserting (event : ι → AcceptedEvent) :
    Setting ι Request.api Telemetry (Except Fault Message) (LockServer ι) where
  part i := served (insertSequenced (event i))
  answers := LockServer.Answers
  hears _ _ s := s

/-- **The same inserts where nothing fails.** -/
def granting (event : ι → AcceptedEvent) :
    Setting ι Request.api Telemetry (Except Fault Message) (LockServer ι) :=
  { inserting event with answers := LockServer.Grants }

/-- A moment of inserts at the same time. -/
abbrev Inserts (ι : Type) :=
  Gathering ι Request.api Telemetry (Except Fault Message) (LockServer ι)

namespace Inserts

variable (g : Inserts ι)

/-- **The transaction is unfinished.** -/
def Unfinished (i : ι) : Prop := (g.affairs.state.held i).isSome

/-- The transaction asks for a lock, and needs it. -/
def Asks (i : ι) (lock : Lock) : Prop :=
  ∃ need rest, g.progress i = .talking (.ask (.need need) rest) ∧
    ¬g.affairs.state.Spares need ∧ need.lock = lock

/-- **An unfinished transaction waits for another** that holds the lock for which it asks. -/
def WaitsOver (i : ι) (lock : Lock) (j : ι) : Prop :=
  i ≠ j ∧ Unfinished g i ∧ Asks g i lock ∧
    ∃ locks, g.affairs.state.held j = some locks ∧ lock ∈ locks

/-- **The waits-for relation.** -/
def Waits (i j : ι) : Prop := ∃ lock, WaitsOver g i lock j

end Inserts

end MessageIntake.Store.Sql
