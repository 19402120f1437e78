import MessageIntake.Proofs.Dispatch.Effect
import MessageIntake.Proofs.Dispatch.Marks
import MessageIntake.Proofs.Log
import MessageIntake.Proofs.Worker.Turns
/-!
# The accounts of workers

Workers that share a store with faults, a sink that records each letter it accepts, and meters.
Their steps go among one another in any order, and everything else that they are answered is open.

A worker's moves keep its accounts: outside of a dispatch nothing is counted, and a dispatch that
has come to its end counts just what was done in it. So the accounts of each worker balance
whenever it is not in a dispatch, and if nobody is in one, those of the log do, in which the meters
are recorded.

Main statement: whenever no dispatch is in flight, the meters account for every record
(`meters_account_for_records`).
-/

namespace MessageIntake.Worker.Accounts

open Dialogue (Leaves ticks ticks_append ticks_told)
open Dispatch (faulty inserted letters)
open Store (Memory)

/-- A move of a worker. -/
abbrev Move := Dialogue.Move api Telemetry

/-! ### What workers share -/

/-- **What workers share**: a store, the letters that the sink has recorded, what the meters show,
and how many dispatches have begun, as each says with its first word. -/
structure Shared where
  store : Memory
  recorded : List Letter
  metrics : Metrics
  dispatches : Nat

namespace Shared

/-- Nothing has happened. -/
def fresh : Shared := ⟨.empty, [], .zero, 0⟩

/-- A note is heard: the meters are marked, and a dispatch may have begun. -/
def hear (s : Shared) (note : Telemetry) : Shared :=
  { s with
    metrics := s.metrics.hear note
    dispatches := s.dispatches + if Tick.ofNote? note = some .begun then 1 else 0 }

end Shared

/-- **What is shared answers so.** A faulty store answers as it should, or has a fault that leaves
no trace; a letter is recorded just when its publication succeeds; all other answers are open. -/
def answers : World api Shared
  | .dispatch (.store q), s, a, s' => ∃ store, faulty q s.store a store ∧ s' = { s with store }
  | .dispatch (.publish _ letter), s, .ok (), s' =>
    s' = { s with recorded := s.recorded ++ [letter] }
  | _, s, _, s' => s' = s

variable {ι : Type}

/-- **Workers that share a store, a sink and meters**, each for a number of turns. -/
def sharing (policy : RetryPolicy) (id limit : ι → Nat) :
    Setting ι api Telemetry (Option WorkerSummary) Shared where
  part i := run policy (id i) (limit i)
  answers _ := answers
  hears _ note s := s.hear note

/-- **A dispatch is in flight**: it has begun, and what is left is some of it, and then whatever
follows. -/
def InDispatch {α : Type} (policy : RetryPolicy) (rest : Talk α) : Prop :=
  ∃ (record : Record) (moves : List Move) (left : Talk Disposition)
    (follows : Disposition → Talk α), Leaves (dispatching policy record) moves left ∧
      moves ≠ [] ∧ (∀ disposition, left ≠ .done disposition) ∧ rest = left.bind follows

/-- **The accounts balance.** -/
structure Shared.Balances (s : Shared) : Prop where
  /-- Every dispatch was either processed or failed, -/
  dispatched : s.metrics.processed + s.metrics.failed = s.dispatches
  /-- and its time was taken. -/
  timed : s.metrics.timed = s.dispatches
  /-- What failed was left for another delivery, or a letter was published for some reason. -/
  failed : s.metrics.failed =
    s.metrics.retried + (Reason.all.map s.metrics.deadLetteredFor).sum
  /-- For every reason so many letters were recorded as are counted. -/
  lettered : ∀ reason,
    s.metrics.deadLetteredFor reason = s.recorded.countP (·.failureReason = reason)
  /-- What was processed was a duplicate, or is a row of the store. -/
  stored : s.metrics.processed = s.metrics.duplicate + s.store.rows.length

/-! ### Counting moves -/

/-- How often a meter was marked. -/
def marks (mark : Meter) (moves : List Move) : Nat := (ticks moves).count (.marked mark)

/-- How many dispatches have begun. -/
def begun (moves : List Move) : Nat := (ticks moves).count .begun

/-- How often a letter was marked, for whatever reason. -/
def lettered (moves : List Move) : Nat := (ticks moves).countP Tick.isLettered

/-- How many letters were recorded for a reason. -/
def lettersFor (reason : Reason) (moves : List Move) : Nat :=
  (letters (talk moves)).countP (·.failureReason = reason)

/-- How many messages were inserted. -/
def rows (moves : List Move) : Nat := inserted (talk moves)

theorem counts_marks (mark : Meter) : Counts (marks mark) where
  nil := rfl
  append _ _ := by simp [marks]

theorem counts_begun : Counts begun where
  nil := rfl
  append _ _ := by simp [begun]

theorem counts_lettered : Counts lettered where
  nil := rfl
  append _ _ := by simp [lettered]

theorem counts_lettersFor (reason : Reason) : Counts (lettersFor reason) where
  nil := rfl
  append _ _ := by simp [lettersFor]

theorem counts_rows : Counts rows where
  nil := rfl
  append _ _ := by simp [rows]

/-! ### The accounts of one worker -/

/-- **Some moves are accounted for**: their counts balance, and the summary goes up by them. -/
structure Accounted (before after : WorkerSummary) (moves : List Move) : Prop where
  dispatched : marks .processed moves + marks .failed moves = begun moves
  timed : marks .timed moves = begun moves
  failed : marks .failed moves = marks .retried moves + lettered moves
  letters : ∀ reason, marks (.deadLettered reason) moves = lettersFor reason moves
  stored : marks .processed moves = marks .duplicate moves + rows moves
  acked : after.acked = before.acked + marks .processed moves
  deadLettered : after.deadLettered = before.deadLettered + lettered moves
  retried : after.retried = before.retried + marks .retried moves

variable {policy : RetryPolicy} {α β : Type} {moves later : List Move}
  {before mid after : WorkerSummary}

/-- Moves that are no ticks, and no answers to a dispatch, leave the accounts alone. -/
theorem accounted_of_quiet (unticked : ticks moves = []) (untalked : talk moves = []) :
    Accounted before before moves := by
  constructor <;> simp [marks, begun, lettered, lettersFor, rows, unticked, untalked]

/-- What is accounted for part by part is accounted for. -/
theorem Accounted.append (h : Accounted before mid moves) (h' : Accounted mid after later) :
    Accounted before after (moves ++ later) := by
  have marked (mark : Meter) := (counts_marks mark).append moves later
  have begins := counts_begun.append moves later
  have letters := counts_lettered.append moves later
  have inserts := counts_rows.append moves later
  obtain ⟨dispatched, timed, failed, recorded, stored, acked, deadLettered, retried⟩ := h
  obtain ⟨dispatched', timed', failed', recorded', stored', acked', deadLettered', retried'⟩ := h'
  refine ⟨?_, ?_, ?_, fun reason => ?_, ?_, ?_, ?_, ?_⟩
  case refine_4 => rw [marked, (counts_lettersFor reason).append, recorded, recorded']
  all_goals
    simp only [marked, begins, letters, inserts]
    omega

/-- Of a dispatch all is read that was inserted in it. -/
theorem rows_ofDispatch (own : List (Dispatch.Event Unit)) :
    rows (own.map ofDispatch) = inserted own := by
  induction own with
  | nil => rfl
  | cons e rest ih =>
    cases e with
    | told note => exact ih
    | answered q a state =>
      have head : talk ((.answered q a state :: rest).map ofDispatch) =
          .answered q a state :: talk (rest.map ofDispatch) := rfl
      rw [rows, head, Dispatch.inserted_cons, Dispatch.inserted_cons, ← ih, rows]

/-- **A dispatch that has come to its end** counts just what was done in it. -/
theorem accounted_of_dispatching {w : Worker} {record : Record} {disposition : Disposition}
    (h : Leaves (dispatching policy record) moves (.done disposition)) :
    Accounted w.summary (w.count disposition).summary moves := by
  obtain ⟨own, rfl, passage⟩ := passage_dispatching_iff.1 h.passage
  obtain ⟨ticked, recorded, new⟩ := Dispatch.marked_of_dispatch passage
  have ticked : ticks (own.map ofDispatch) =
      .begun :: (Dispatch.marksOf disposition ++ [Meter.timed]).map .marked :=
    (Dialogue.ticks_lift own).trans ticked
  have recorded (reason : Reason) : lettersFor reason (own.map ofDispatch) =
      (Dispatch.marksOf disposition).count (.deadLettered reason) := by
    rw [lettersFor, (read_ofDispatch own).1, recorded]
  have new := (rows_ofDispatch own).trans new
  match disposition with
  | .acked ⟨message, true⟩ | .acked ⟨message, false⟩ | .deadLettered .. | .retry .. =>
    constructor <;>
      simp [marks, begun, lettered, ticked, recorded, new, Dispatch.marksOf, Dispatch.rowsOf,
        Worker.count, Tick.isLettered, List.count_cons, List.countP_cons]

/-! ### The accounts along a worker's part -/

/-- A dispatch is still in flight when something is to follow. -/
theorem InDispatch.bind {rest : Talk α} {follows : α → Talk β} (h : InDispatch policy rest) :
    InDispatch policy (rest.bind follows) := by
  obtain ⟨record, moves, left, next, part, some, further, rfl⟩ := h
  exact ⟨record, moves, left, _, part, some, further, Dialogue.bind_assoc ..⟩

theorem not_inDispatch_done (value : α) : ¬InDispatch policy (.done value) := by
  rintro ⟨record, moves, left, follows, -, -, further, eq⟩
  exact Dialogue.bind_ne_done further value eq.symm

/-- **A dialogue keeps the accounts** from a summary on: whenever it is not in a dispatch, its moves
are accounted for, and the value with which it ends goes with the summary by then. -/
def Keeps (policy : RetryPolicy) (before : WorkerSummary) (goes : α → WorkerSummary → Prop)
    (d : Talk α) : Prop :=
  ∀ moves left, Leaves d moves left → InDispatch policy left ∨
    ∃ after, Accounted before after moves ∧ ∀ value, left = .done value → goes value after

variable {goes : α → WorkerSummary → Prop} {goes' : β → WorkerSummary → Prop} {w : Worker}
  {record : Record}

theorem keeps_done {value : α} (h : goes value before) :
    Keeps policy before goes (.done value) := by
  intro moves left part
  cases part
  refine .inr ⟨before, accounted_of_quiet rfl rfl, ?_⟩
  rintro _ ⟨⟩
  exact h

/-- Telling what is no tick. -/
theorem keeps_tell {note : Telemetry} {rest : Talk α} (quiet : Tick.ofNote? note = none)
    (h : Keeps policy before goes rest) : Keeps policy before goes (.tell note rest) := by
  intro moves left part
  cases part with
  | none => exact .inr ⟨before, accounted_of_quiet rfl rfl, nofun⟩
  | tell part =>
    have first : Accounted before before [.told note] :=
      accounted_of_quiet (by rw [ticks_told, quiet]; rfl) rfl
    exact (h _ _ part).imp_right fun ⟨after, accounted, ends⟩ =>
      ⟨after, first.append accounted, ends⟩

/-- Asking what is not asked in a dispatch. -/
theorem keeps_ask {question : Question} {rest : api.Answer question → Talk α}
    (aside : ∀ answer, talk? (.answered question answer () : Move) = none)
    (h : ∀ answer, Keeps policy before goes (rest answer)) :
    Keeps policy before goes (.ask question rest) := by
  intro moves left part
  cases part with
  | none => exact .inr ⟨before, accounted_of_quiet rfl rfl, nofun⟩
  | @ask _ _ answer _ _ part =>
    have first : Accounted before before [.answered question answer ()] :=
      accounted_of_quiet rfl (by simp [talk, aside])
    exact (h _ _ _ part).imp_right fun ⟨after, accounted, ends⟩ =>
      ⟨after, first.append accounted, ends⟩

/-- **A sequence** keeps the accounts if its parts do. -/
theorem keeps_bind {d : Talk α} {follows : α → Talk β} (h : Keeps policy before goes d)
    (next : ∀ value mid, goes value mid → Keeps policy mid goes' (follows value)) :
    Keeps policy before goes' (d.bind follows) := by
  intro moves left part
  rcases part.of_bind with ⟨mid, inner, further, rfl⟩ | ⟨first, later, value, rfl, one, two⟩
  · rcases h _ _ inner with inside | ⟨after, accounted, -⟩
    · exact .inl inside.bind
    · exact .inr ⟨after, accounted, fun value eq =>
        absurd eq (Dialogue.bind_ne_done further value)⟩
  · rcases h _ _ one with inside | ⟨mid, accounted, ends⟩
    · exact absurd inside (not_inDispatch_done value)
    · exact (next value mid (ends value rfl) _ _ two).imp_right fun ⟨after, accounted', ends'⟩ =>
        ⟨after, accounted.append accounted', ends'⟩

/-- **A dispatch** has not begun, is in flight, or is accounted for. -/
theorem keeps_dispatching (w : Worker) (record : Record) :
    Keeps policy w.summary (fun disposition after => after = (w.count disposition).summary)
      (dispatching policy record) := by
  intro moves left part
  by_cases ended : ∃ disposition, left = .done disposition
  · obtain ⟨disposition, rfl⟩ := ended
    refine .inr ⟨_, accounted_of_dispatching part, ?_⟩
    rintro _ ⟨⟩
    rfl
  · have further := not_exists.1 ended
    cases moves with
    | nil =>
      exact .inr ⟨_, accounted_of_quiet rfl rfl, fun disposition eq =>
        absurd eq (further disposition)⟩
    | cons move moves =>
      exact .inl ⟨record, _, left, .done, part, nofun, further, (Dialogue.bind_done left).symm⟩

theorem keeps_acknowledge :
    Keeps policy before (fun _ after => after = before) (w.acknowledge record) := by
  refine keeps_ask (fun _ => rfl) fun
    | .ok () => keeps_done rfl
    | .error fault => keeps_tell (Dispatch.ofNote?_line (by decide) ..) (keeps_done rfl)

theorem keeps_redeliver {delay : Span} {attempt : Nat} :
    Keeps policy before (fun _ after => after = before) (w.redeliver record delay attempt) := by
  refine keeps_tell (Dispatch.ofNote?_line (by decide) ..) (keeps_ask (fun _ => rfl) fun
    | .elapsed => keeps_ask (fun _ => rfl) fun
      | .ok () => keeps_done rfl
      | .error fault => keeps_tell (Dispatch.ofNote?_line (by decide) ..) (keeps_done rfl)
    | .interrupted => keeps_tell (Dispatch.ofNote?_line (by decide) ..) (keeps_done rfl))

/-- **Settling a record** with the transport counts nothing. -/
theorem keeps_settle (disposition : Disposition) :
    Keeps policy before (fun _ after => after = before) (w.settle record disposition) := by
  cases disposition with
  | acked | deadLettered => exact keeps_acknowledge
  | retry => exact keeps_redeliver

theorem keeps_noteSuccess :
    Keeps policy w.summary (fun w' after => after = w'.summary) w.noteSuccess := by
  rw [noteSuccess]
  split
  · exact keeps_tell (Dispatch.ofNote?_line (by decide) ..) (keeps_tell rfl (keeps_done rfl))
  · exact keeps_done rfl

/-- **A record that was received** is counted in the summary as it is settled. -/
theorem keeps_onRecord :
    Keeps policy w.summary (fun w' after => after = w'.summary) (onRecord policy w record) := by
  refine keeps_bind keeps_noteSuccess fun w mid eq => ?_
  subst eq
  refine keeps_bind (keeps_dispatching w record) fun disposition mid eq => ?_
  subst eq
  refine keeps_bind (keeps_settle disposition) fun _ mid eq => ?_
  exact keeps_done eq

theorem keeps_onFault {fault : Transport.Fault} :
    Keeps policy w.summary (fun w' after => after = w'.summary) (w.onFault fault) := by
  have line (w : Worker) : Tick.ofNote? (w.faultLine fault) = none := by
    unfold faultLine
    dsimp only
    split_ifs <;> exact Dispatch.ofNote?_line (by decide) ..
  exact keeps_tell rfl (keeps_tell (line _) (keeps_tell rfl
    (keeps_ask (fun _ => rfl) fun _ => keeps_done rfl)))

/-- **A turn** keeps the accounts. -/
theorem keeps_turn :
    Keeps policy w.summary (fun next after => after = (next.getD w).summary) (turn policy w) := by
  refine keeps_ask (fun _ => rfl) fun
    | true => keeps_done rfl
    | false => keeps_ask ?_ fun
      | .signalled | .abandoned => keeps_done rfl
      | .closed => keeps_tell (Dispatch.ofNote?_line (by decide) ..) (keeps_done rfl)
      | .fault fault => keeps_bind keeps_onFault fun _ _ eq => keeps_done eq
      | .record record => keeps_bind keeps_onRecord fun _ _ eq => keeps_done eq
  exact fun _ => rfl

/-- **So do turns**, and the summary in the end is the one that they have come to. -/
theorem keeps_turns (limit : Nat) :
    Keeps policy w.summary (fun result after => ∀ summary, result = some summary →
      summary = after) (turns policy limit w) := by
  induction limit generalizing w with
  | zero => exact keeps_done nofun
  | succ limit ih =>
    refine keeps_bind keeps_turn fun next mid eq => ?_
    cases next with
    | none =>
      refine keeps_tell (Dispatch.ofNote?_line (by decide) ..) (keeps_done ?_)
      rintro _ ⟨⟩
      exact eq.symm
    | some w' => exact eq ▸ ih

/-- **A run** keeps the accounts from nothing on. -/
theorem keeps_run (id limit : Nat) :
    Keeps policy ⟨0, 0, 0⟩ (fun result after => ∀ summary, result = some summary →
      summary = after) (run policy id limit) :=
  keeps_tell (Dispatch.ofNote?_line (by decide) ..) (keeps_tell rfl (keeps_turns limit))

/-! ### What is recorded in a log -/

/-- **What is shared is recorded in some moves.** -/
structure Recorded (s : Shared) (moves : List Move) : Prop where
  shown : s.metrics.Shows (ticks moves)
  dispatches : s.dispatches = begun moves
  letters : s.recorded = letters (talk moves)
  stored : ∃ l, s.store.Records l ∧ l.length = rows moves

theorem recorded_fresh : Recorded .fresh [] where
  shown := Metrics.shows_zero
  dispatches := rfl
  letters := rfl
  stored := ⟨[], Memory.records_empty, rfl⟩

variable {s s' : Shared}

/-- What is told is heard. -/
theorem Recorded.told (h : Recorded s moves) (note : Telemetry) :
    Recorded (s.hear note) (moves ++ [.told note]) := by
  have untalked : talk (moves ++ [.told note]) = talk moves := by
    rw [talk_append]
    exact List.append_nil _
  have ticked : ticks (moves ++ [.told note]) = ticks moves ++ (Tick.ofNote? note).toList := by
    rw [ticks_append, ticks_told]
    exact congrArg _ (List.append_nil _)
  refine ⟨ticked ▸ h.shown.hear note, ?_, untalked ▸ h.letters, ?_⟩
  · rw [begun, ticked, List.count_append, Shared.hear, h.dispatches, begun]
    cases Tick.ofNote? note <;> simp [List.count_singleton]
  · obtain ⟨l, records, length⟩ := h.stored
    exact ⟨l, records, by rw [length, rows, rows, untalked]⟩

/-- A faulty store that records a ledger records one with what was inserted. -/
theorem records_of_faulty {q : Store.Question} {m m' : Memory} {a : Store.api.Answer q}
    {l : List Message} (records : m.Records l) (h : faulty q m a m') :
    ∃ l', m'.Records l' ∧
      l'.length = l.length + inserted [(.answered (.store q) a () : Dispatch.Event Unit)] := by
  cases q with
  | insert event =>
    rcases h with eq | ⟨⟨failure, rfl⟩ | missed, rfl⟩
    · rcases records.insert_cases event with ⟨key, x, mem, shared, taken⟩ | ⟨free, added⟩
      · obtain ⟨rfl, rfl⟩ := Prod.mk.inj (eq.trans taken)
        exact ⟨l, records, rfl⟩
      · obtain ⟨rfl, rfl⟩ := Prod.mk.inj (eq.trans added)
        exact ⟨_, records.add free, List.length_append⟩
    · exact ⟨l, records, rfl⟩
    · exact missed.elim
  | findByEventId | findByClientMsgId | lastSeq =>
    have same : m' = m := by
      rcases h with eq | ⟨-, rfl⟩
      · exact (Prod.mk.inj eq).2
      · rfl
    exact ⟨l, same ▸ records, rfl⟩

/-- **What an answer changes**: a letter is recorded, or a row is stored. -/
theorem of_answers {question : Question} {answer : api.Answer question}
    (h : answers question s answer s') :
    s'.metrics = s.metrics ∧ s'.dispatches = s.dispatches ∧
      s'.recorded = s.recorded ++ letters (talk [(.answered question answer () : Move)]) ∧
      ∀ l, s.store.Records l → ∃ l', s'.store.Records l' ∧
        l'.length = l.length + rows [.answered question answer ()] := by
  match question, answer, h with
  | .dispatch (.store q), a, ⟨store, asked, eq⟩ =>
    subst eq
    exact ⟨rfl, rfl, (List.append_nil _).symm, fun l records => records_of_faulty records asked⟩
  | .dispatch (.publish record letter), .ok (), eq =>
    cases eq
    exact ⟨rfl, rfl, rfl, fun l records => ⟨l, records, rfl⟩⟩
  | .dispatch (.publish record letter), .error failure, eq
  | .dispatch .now, a, eq | .dispatch .factor, a, eq | .isStopping, a, eq | .receive, a, eq
  | .ack record, a, eq | .nack record, a, eq | .rest span, a, eq =>
    cases eq
    exact ⟨rfl, rfl, (List.append_nil _).symm, fun l records => ⟨l, records, rfl⟩⟩

/-- What is answered is recorded. -/
theorem Recorded.answered {question : Question} {answer : api.Answer question}
    (h : Recorded s moves) (ha : answers question s answer s') :
    Recorded s' (moves ++ [.answered question answer ()]) := by
  obtain ⟨metrics, dispatches, recorded, grows⟩ := of_answers ha
  have unticked : ticks (moves ++ [.answered question answer ()]) = ticks moves := by
    rw [ticks_append]
    exact List.append_nil _
  refine ⟨?_, ?_, ?_, ?_⟩
  · rw [metrics, unticked]
    exact h.shown
  · rw [dispatches, h.dispatches, begun, begun, unticked]
  · rw [recorded, h.letters, talk_append, Dispatch.letters_append]
  · obtain ⟨l, records, length⟩ := h.stored
    obtain ⟨l', records', length'⟩ := grows l records
    exact ⟨l', records', by rw [length', length, counts_rows.append]⟩

/-! ### The accounts of all -/

variable [DecidableEq ι] {id limit : ι → Nat}
  {g : Gathering ι api Telemetry (Option WorkerSummary) Shared}

/-- **Every moment has a log** in which all that is shared is recorded, and of which the moves of
each worker that is in no dispatch are accounted for. -/
theorem exists_accounted (h : (sharing policy id limit).Reachable .fresh g)
    (none : ∀ i rest, g.progress i = .talking rest → ¬InDispatch policy rest) :
    ∃ log : Log ι api Telemetry, Recorded g.affairs.state log.moves ∧
      ∀ i, ∃ after, Accounted ⟨0, 0, 0⟩ after (log.own i) ∧
        ∀ summary, g.progress i = .finished (some summary) → summary = after := by
  obtain ⟨log, recorded, come⟩ := h.exists_log (fun s log => Recorded s log.moves) recorded_fresh
    (fun who question s answer s' log ha kept => by
      rw [Log.moves_concat]
      exact kept.answered ha)
    (fun who note s log kept => by
      rw [Log.moves_concat]
      exact kept.told note)
  refine ⟨log, recorded, fun i => ?_⟩
  have own := come i
  cases far : g.progress i with
  | waiting =>
    rw [far] at own
    have nothing : log.own i = [] := own
    exact ⟨⟨0, 0, 0⟩, accounted_of_quiet (by rw [nothing]; rfl) (by rw [nothing]; rfl), nofun⟩
  | talking rest =>
    rw [far] at own
    rcases keeps_run _ _ _ _ own with inside | ⟨after, accounted, -⟩
    · exact absurd inside (none i rest far)
    · exact ⟨after, accounted, nofun⟩
  | finished value =>
    rw [far] at own
    rcases keeps_run _ _ _ _ own with inside | ⟨after, accounted, ends⟩
    · exact absurd inside (not_inDispatch_done value)
    · refine ⟨after, accounted, ?_⟩
      rintro summary ⟨⟩
      exact ends _ rfl summary rfl

/-- **What is accounted for each worker** is accounted for all of them. -/
theorem accounted_of_own [Fintype ι] {log : Log ι api Telemetry} {after : ι → WorkerSummary}
    (each : ∀ i, Accounted ⟨0, 0, 0⟩ (after i) (log.own i)) :
    Accounted ⟨0, 0, 0⟩
      ⟨∑ i, (after i).acked, ∑ i, (after i).deadLettered, ∑ i, (after i).retried⟩ log.moves where
  dispatched := Log.count_eq ((counts_marks _).add (counts_marks _)) counts_begun fun i =>
    (each i).dispatched
  timed := Log.count_eq (counts_marks _) counts_begun fun i => (each i).timed
  failed := Log.count_eq (counts_marks _) ((counts_marks _).add counts_lettered) fun i =>
    (each i).failed
  letters reason := Log.count_eq (counts_marks _) (counts_lettersFor reason) fun i =>
    (each i).letters reason
  stored := Log.count_eq (counts_marks _) ((counts_marks _).add counts_rows) fun i =>
    (each i).stored
  acked := by
    rw [Nat.zero_add, Log.count_moves (counts_marks _)]
    exact Finset.sum_congr rfl fun i _ => (each i).acked.trans (Nat.zero_add _)
  deadLettered := by
    rw [Nat.zero_add, Log.count_moves counts_lettered]
    exact Finset.sum_congr rfl fun i _ => (each i).deadLettered.trans (Nat.zero_add _)
  retried := by
    rw [Nat.zero_add, Log.count_moves (counts_marks _)]
    exact Finset.sum_congr rfl fun i _ => (each i).retried.trans (Nat.zero_add _)

/-- The meters show the letters, for whatever reason. -/
theorem Recorded.total (h : Recorded s moves) :
    (Reason.all.map s.metrics.deadLetteredFor).sum = lettered moves := by
  rw [lettered, countP_isLettered]
  exact congrArg List.sum (List.map_congr_left fun reason _ => h.shown (.deadLettered reason))

/-- **Where the moves are accounted for**, the accounts balance. -/
theorem Recorded.balances (h : Recorded s moves) (accounted : Accounted before after moves) :
    s.Balances := by
  have marked (mark : Meter) : s.metrics.reading mark = marks mark moves := h.shown mark
  have processed := marked .processed
  have failed := marked .failed
  have duplicate := marked .duplicate
  have retried := marked .retried
  have timed := marked .timed
  have total := h.total
  obtain ⟨l, records, length⟩ := h.stored
  have listed := records.listed.length_eq
  simp only [Metrics.reading] at processed failed duplicate retried timed
  refine ⟨?_, ?_, ?_, fun reason => ?_, ?_⟩
  · rw [processed, failed, h.dispatches, accounted.dispatched]
  · rw [timed, h.dispatches, accounted.timed]
  · rw [failed, retried, total, accounted.failed]
  · rw [h.letters]
    exact (marked (.deadLettered reason)).trans (accounted.letters reason)
  · rw [processed, duplicate, listed, length, accounted.stored]

/-- **The meters account for every record.** Whenever no dispatch is in flight the accounts
balance; and when all workers have come to their end, the meters show the sums of their
summaries. -/
theorem meters_account_for_records [Fintype ι] (policy : RetryPolicy) (id limit : ι → Nat)
    {g : Gathering ι api Telemetry (Option WorkerSummary) Shared}
    (h : (sharing policy id limit).Reachable .fresh g)
    (none : ∀ i rest, g.progress i = .talking rest → ¬InDispatch policy rest) :
    g.affairs.state.Balances ∧
      ∀ summary : ι → WorkerSummary, (∀ i, g.progress i = .finished (some (summary i))) →
        g.affairs.state.metrics.processed = ∑ i, (summary i).acked ∧
        (Reason.all.map g.affairs.state.metrics.deadLetteredFor).sum =
          ∑ i, (summary i).deadLettered ∧
        g.affairs.state.metrics.retried = ∑ i, (summary i).retried := by
  obtain ⟨log, recorded, each⟩ := exists_accounted h none
  choose after accounted ends using each
  have all := accounted_of_own accounted
  refine ⟨recorded.balances all, fun summary finished => ?_⟩
  have same (i : ι) : after i = summary i := (ends i _ (finished i)).symm
  simp only [same] at all
  refine ⟨?_, ?_, ?_⟩
  · exact (recorded.shown .processed).trans (all.acked.trans (Nat.zero_add _)).symm
  · exact recorded.total.trans (all.deadLettered.trans (Nat.zero_add _)).symm
  · exact (recorded.shown .retried).trans (all.retried.trans (Nat.zero_add _)).symm

/-- A worker's dispatch of a record that can be read. -/
theorem dispatching_of_read {record : Record} {event : ChatEvent} (policy : RetryPolicy)
    (read : ChatEvent.ofPayload? record.payload = .ok event) :
    dispatching policy record =
      .tell (Dispatch.moveLine .received .reading) (.tell (Dispatch.moveLine .reading .accepting)
        (.ask (.dispatch .now) fun receivedAt =>
          (Dispatch.onceAccepted policy record (event.accept receivedAt)).embed Question.dispatch
            fun _ answer => answer)) := by
  rw [dispatching, Dispatch.dispatch_of_read policy read]
  rfl

/-- **One of two workers stores a record and dead-letters the next, and the other leaves one**:
their steps go among one another, and the meters show the sums of what they say in the end. -/
theorem letter_beside_refusal :
    ∃ (g : Gathering Bool api Telemetry (Option WorkerSummary) Shared)
      (summary : Bool → WorkerSummary),
      (sharing .default Bool.toNat fun _ => 3).Reachable .fresh g ∧
        (∀ i, g.progress i = .finished (some (summary i))) ∧
        summary false = ⟨1, 1, 0⟩ ∧ summary true = ⟨0, 0, 1⟩ ∧
        g.affairs.state.Balances ∧ g.affairs.state.store.rows.length = 1 ∧
        g.affairs.state.metrics.retried = ∑ i, (summary i).retried := by
  let record : Record := ⟨"chat", 0, 0, none, none, 1⟩
  let row := Store.entry [] Dispatch.greetingAccepted
  let S := sharing .default Bool.toNat fun _ : Bool => 3
  have going (i : Bool) (s : Shared) : S.answers i .isStopping s false s := rfl
  have stopping (i : Bool) (s : Shared) : S.answers i .isStopping s true s := rfl
  have received (i : Bool) (r : Record) (s : Shared) :
      S.answers i .receive s (.record r) s := rfl
  have now (i : Bool) (s : Shared) : S.answers i (.dispatch .now) s Timestamp.epoch s := rfl
  have missing (i : Bool) (s : Shared) (new : s.store = .empty) :
      S.answers i (.dispatch (.store (.findByEventId "e1"))) s (.ok none) s := by
    obtain ⟨store, recorded, metrics, dispatches⟩ := s
    obtain rfl : store = .empty := new
    exact ⟨.empty, .inl (by simp [Memory.answer, Memory.findByEventId, Memory.empty]), rfl⟩
  have takes (i : Bool) (s : Shared) (new : s.store = .empty) :
      S.answers i (.dispatch (.store (.insert Dispatch.greetingAccepted))) s (.ok row)
        { s with store := Memory.empty.add Dispatch.greetingAccepted row } := by
    refine ⟨_, .inl ?_, rfl⟩
    rw [new]
    exact (Memory.insert_empty _).symm
  have published (i : Bool) (r : Record) (letter : Letter) (s : Shared) :
      S.answers i (.dispatch (.publish r letter)) s (.ok ())
        { s with recorded := s.recorded ++ [letter] } := rfl
  have refused (i : Bool) (r : Record) (letter : Letter) (s : Shared) :
      S.answers i (.dispatch (.publish r letter)) s (.error (.letterUnpublished "broker down"))
        s := rfl
  have committed (i : Bool) (r : Record) (s : Shared) : S.answers i (.ack r) s (.ok ()) s := rfl
  have interrupted (i : Bool) (delay : Span) (s : Shared) :
      S.answers i (.rest delay) s .interrupted s := rfl
  have opening : S.Reachable .fresh (.opening .fresh) := .opening
  have part := dispatching_of_read .default (Dispatch.read_greeting 0)
  have run := opening.step false (.begin rfl)
    |>.step true (.begin rfl)
    |>.step false (.tell rfl)
    |>.step false (.tell rfl)
    |>.step true (.tell rfl)
    |>.step true (.tell rfl)
    |>.step false (.ask rfl (going _ _))
    |>.step true (.ask rfl (going _ _))
    |>.step true (.ask rfl (received _ record _))
    |>.step false (.ask rfl (received _ (Dispatch.greeting 0) _))
    |>.step false (.tell (congrArg (fun dispatching => Progress.talking
      (Dialogue.bind (Dialogue.bind (Dialogue.bind dispatching _) _) _)) part))
    |>.step true (.tell rfl)
    |>.step false (.tell rfl)
    |>.step false (.ask rfl (now _ _))
    |>.step false (.tell rfl)
    |>.step true (.tell rfl)
    |>.step true (.tell rfl)
    |>.step false (.ask rfl (missing _ _ rfl))
    |>.step true (.ask rfl (now _ _))
    |>.step false (.ask rfl (takes _ _ rfl))
    |>.step true (.ask rfl (refused _ _ _ _))
    |>.step false (.tell rfl)
    |>.step false (.tell rfl)
    |>.step true (.tell rfl)
    |>.step false (.tell rfl)
    |>.step false (.tell rfl)
    |>.step true (.tell rfl)
    |>.step false (.ask rfl (committed _ _ _))
    |>.step false (.ask rfl (going _ _))
    |>.step false (.ask rfl (received _ record _))
    |>.step true (.tell rfl)
    |>.step false (.tell rfl)
    |>.step false (.tell rfl)
    |>.step false (.tell rfl)
    |>.step false (.ask rfl (now _ _))
    |>.step false (.ask rfl (published _ _ _ _))
    |>.step false (.tell rfl)
    |>.step true (.tell rfl)
    |>.step false (.tell rfl)
    |>.step true (.tell rfl)
    |>.step false (.tell rfl)
    |>.step true (.ask rfl (interrupted _ _ _))
    |>.step false (.ask rfl (committed _ _ _))
    |>.step true (.tell rfl)
    |>.step false (.ask rfl (stopping _ _))
    |>.step true (.ask rfl (stopping _ _))
    |>.step false (.tell rfl)
    |>.step true (.tell rfl)
    |>.step false (.finish rfl)
    |>.step true (.finish rfl)
  let summary : Bool → WorkerSummary := fun i => if i then ⟨0, 0, 1⟩ else ⟨1, 1, 0⟩
  have finished : ∀ i, Gathering.progress _ i = .finished (some (summary i)) :=
    Bool.forall_bool.2 ⟨((run.history false).2 _).2 (.tail _ (.head _)),
      ((run.history true).2 _).2 (.head _)⟩
  have accounts := meters_account_for_records .default _ _ run fun i rest talks => by
    rw [finished i] at talks
    cases talks
  have records : (Memory.empty.add Dispatch.greetingAccepted row).Records ([] ++ [row]) :=
    Memory.records_empty.add (by simp)
  exact ⟨_, summary, run, finished, rfl, rfl, accounts.1, records.listed.length_eq,
    (accounts.2 summary finished).2.2⟩

end MessageIntake.Worker.Accounts
