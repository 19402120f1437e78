import MessageIntake.Persistence
import MessageIntake.Store.Sql
/-!
# A scripted server

A server that knows no SQL: it notes each statement and gives the next of its listed
replies, which pass for whatever the statement asks for. `BEGIN` and `COMMIT` have lists of
their own.
-/

namespace MessageIntake.Rehearsal

open Store.Sql (Statement MessageRow CounterRow)

/-- **A reply.** -/
inductive Reply where
  /-- Success without rows. -/
  | nothing
  /-- One row, with the columns of both tables. -/
  | row (message : MessageRow) (counter : CounterRow)
  | refusal (fault : Datastore.Fault)

/-- **A scripted server.** -/
structure Server where
  replies : List Reply
  /-- Which of the coming `BEGIN`s are refused. -/
  begins : List (Option Datastore.Fault)
  /-- Which of the coming `COMMIT`s are refused. -/
  commits : List (Option Datastore.Fault)
  /-- The statements that came, the newest first. -/
  statements : List Statement
  told : List Telemetry

namespace Server

/-- The server before its first statement. -/
def opening (replies : List Reply) (begins commits : List (Option Datastore.Fault)) : Server :=
  ⟨replies, begins, commits, [], []⟩

/-- A statement that came. -/
def note (statement : Statement) (s : Server) : Server :=
  { s with statements := statement :: s.statements }

/-- The next reply. -/
def next (s : Server) : Reply × Server :=
  (s.replies.headD .nothing, { s with replies := s.replies.tail })

/-- The outcome of a `BEGIN` or `COMMIT` in its list. -/
def refusal? : List (Option Datastore.Fault) → Except Datastore.Fault Unit
  | some fault :: _ => .error fault
  | _ => .ok ()

/-- A reply to a statement that returns nothing. -/
def Reply.done : Reply → Except Datastore.Fault Unit
  | .refusal fault => .error fault
  | _ => .ok ()

/-- A reply to a statement that asks for a message. -/
def Reply.message : Reply → Except Datastore.Fault (Option MessageRow)
  | .nothing => .ok none
  | .row message _ => .ok (some message)
  | .refusal fault => .error fault

/-- A reply to a statement that asks for a counter. -/
def Reply.counter : Reply → Except Datastore.Fault (Option CounterRow)
  | .nothing => .ok none
  | .row _ counter => .ok (some counter)
  | .refusal fault => .error fault

/-- An answer made of the next reply. -/
def reply {α : Type} (f : Reply → α) (s : Server) : α × Server :=
  let (r, s) := s.next
  (f r, s)

/-- What the server answers to a statement that was noted. -/
def answer (s : Server) : (q : Statement) → Store.Sql.api.Answer q × Server
  | .begin => (refusal? s.begins, { s with begins := s.begins.tail })
  | .commit => (refusal? s.commits, { s with commits := s.commits.tail })
  | .rollback => ((), s)
  | .findByEventId _ => s.reply Reply.message
  | .findByClientMsgId _ => s.reply Reply.message
  | .readCounter _ => s.reply Reply.counter
  | .addCounter _ => s.reply Reply.done
  | .lockCounter _ => s.reply Reply.counter
  | .setCounter .. => s.reply Reply.done
  | .insertMessage .. => s.reply Reply.message

/-- **The server as surroundings.** -/
def surroundings : Dialogue.Surroundings Store.Sql.api Telemetry Server where
  answer q s := (s.note q).answer q
  hear note s := { s with told := note :: s.told }

/-- Asking the store behind which the server is. -/
def ask (q : Store.Question) (s : Server) : Except Failure q.Result × Server :=
  (Store.Sql.answer q).run surroundings s

/-- Storing an event in the store behind which the server is. -/
def persist (event : AcceptedEvent) (s : Server) : Except Failure Outcome × Server :=
  ((Persistence.persist event).interpret Store.Sql.answer).run surroundings s

end Server

end MessageIntake.Rehearsal
