import MessageIntake.Proofs.Dispatch.Verdict
import MessageIntake.Worker
/-!
# The turns of a worker

How the turns of a worker go in whatever world. Most of what a worker does is asked and told on
the side; its *deeds* are what it does with records: one is received, is dispatched, and is
acknowledged or asked for again. The deeds of a turn are none, or they are the *treatment* of one
record: its delivery, then its whole dispatch, and then its settlement.

Main statements: a turn ends the work, or receives nothing and goes on, or treats one record
(`turned_of_turn`); a run is one turn after the other (`turn_of_turns`), so that its deeds are
those of one treatment after the other, and its summary counts how the records were settled
(`treatments_of_turns`).
-/

namespace MessageIntake.Worker

open Dialogue (Passage passage_done_iff passage_tell_iff passage_ask_iff passage_bind_iff)

variable {σ : Type}

/-- An event of a worker's run. -/
abbrev Event (σ : Type) := Dialogue.Event api Telemetry σ

/-- An event of a dispatch, as one of the worker. -/
def ofDispatch : Dispatch.Event σ → Event σ := .lift Question.dispatch fun _ answer => answer

/-! ### Deeds -/

/-- A record was received, or a question was asked about one. -/
def isDeed : Event σ → Bool
  | .answered .receive (.record _) _ => true
  | .answered (.dispatch _) _ _ => true
  | .answered (.ack _) _ _ => true
  | .answered (.nack _) _ _ => true
  | _ => false

/-- **The deeds of a worker**, the oldest first. -/
def deeds (events : List (Event σ)) : List (Event σ) := events.filter isDeed

@[simp] theorem deeds_append (events later : List (Event σ)) :
    deeds (events ++ later) = deeds events ++ deeds later := List.filter_append ..

/-- What is told is no deed. -/
@[simp] theorem deeds_told (note : Telemetry) (events : List (Event σ)) :
    deeds (.told note :: events) = deeds events := rfl

@[simp] theorem deeds_map_told (notes : List Telemetry) :
    deeds (notes.map .told : List (Event σ)) = [] := by
  induction notes with
  | nil => rfl
  | cons note rest ih => exact ih

@[simp] theorem deeds_isStopping (answer : Bool) (s : σ) (events : List (Event σ)) :
    deeds (.answered .isStopping answer s :: events) = deeds events := rfl

@[simp] theorem deeds_rest (span : Span) (answer : Rest) (s : σ) (events : List (Event σ)) :
    deeds (.answered (.rest span) answer s :: events) = deeds events := rfl

@[simp] theorem deeds_signalled (s : σ) (events : List (Event σ)) :
    deeds (.answered .receive .signalled s :: events) = deeds events := rfl

@[simp] theorem deeds_fault (fault : Transport.Fault) (s : σ) (events : List (Event σ)) :
    deeds (.answered .receive (.fault fault) s :: events) = deeds events := rfl

@[simp] theorem deeds_record (record : Record) (s : σ) (events : List (Event σ)) :
    deeds (.answered .receive (.record record) s :: events) =
      .answered .receive (.record record) s :: deeds events := rfl

@[simp] theorem deeds_ack (record : Record) (answer : Except Transport.Fault Unit) (s : σ)
    (events : List (Event σ)) :
    deeds (.answered (.ack record) answer s :: events) =
      .answered (.ack record) answer s :: deeds events := rfl

@[simp] theorem deeds_nack (record : Record) (answer : Except Transport.Fault Unit) (s : σ)
    (events : List (Event σ)) :
    deeds (.answered (.nack record) answer s :: events) =
      .answered (.nack record) answer s :: deeds events := rfl

/-! ### Treatments -/

/-- **The treatment of a record**: the record as it was received, all that happened in its
dispatch, how it was to be settled, and what happened in settling it; with the state of the world
at the delivery, after the dispatch, and in the end. -/
structure Treatment (σ : Type) where
  record : Record
  received : σ
  talk : List (Dispatch.Event σ)
  disposition : Disposition
  dispatched : σ
  settlement : List (Event σ)
  settled : σ

/-- The events of a treatment from the delivery on. -/
def Treatment.events (t : Treatment σ) : List (Event σ) :=
  .answered .receive (.record t.record) t.received :: (t.talk.map ofDispatch ++ t.settlement)

/-- **How a record is settled**: it is acknowledged; or, after the wait, it is asked for again; or
the wait is cut short and it is left. -/
inductive Settled (W : World api σ) (record : Record) (s : σ) :
    Disposition → List (Event σ) → σ → Prop where
  | acknowledged {disposition : Disposition} {answer : Except Transport.Fault Unit} {s' : σ}
      (notes : List Telemetry) (final : disposition.shouldAck = true)
      (asked : W (.ack record) s answer s') :
      Settled W record s disposition (.answered (.ack record) answer s' :: notes.map .told) s'
  | rewound {delay : Span} {attempt : Nat} {reason : Reason} {note : Telemetry} {mid s' : σ}
      {answer : Except Transport.Fault Unit} (notes : List Telemetry)
      (waited : W (.rest delay) s .elapsed mid) (asked : W (.nack record) mid answer s') :
      Settled W record s (.retry delay attempt reason)
        (.told note :: .answered (.rest delay) .elapsed mid ::
          .answered (.nack record) answer s' :: notes.map .told) s'
  | left {delay : Span} {attempt : Nat} {reason : Reason} {note last : Telemetry} {s' : σ}
      (waited : W (.rest delay) s .interrupted s') :
      Settled W record s (.retry delay attempt reason)
        [.told note, .answered (.rest delay) .interrupted s', .told last] s'

/-- **A treatment is one in a world**: its dispatch goes all the way, and the record is settled as
came of it. -/
structure Treatment.In (t : Treatment σ) (W : World api σ) (policy : RetryPolicy) : Prop where
  dispatch : Passage (fun q => W (.dispatch q)) (Dispatch.dispatch policy t.record) t.received
    t.talk t.disposition t.dispatched
  settle : Settled W t.record t.dispatched t.disposition t.settlement t.settled

variable {W : World api σ} {policy : RetryPolicy} {w : Worker} {record : Record} {s s' : σ}
  {events : List (Event σ)}

/-! ### What the deeds tell -/

/-- What an event says of a dispatch. -/
def talk? : Event σ → Option (Dispatch.Event σ)
  | .answered (.dispatch question) answer state => some (.answered question answer state)
  | _ => none

/-- The record of which an event says that it was received. -/
def received? : Event σ → Option Record
  | .answered .receive (.record record) _ => some record
  | _ => none

/-- The record that an event asks to acknowledge. -/
def acknowledged? : Event σ → Option Record
  | .answered (.ack record) _ _ => some record
  | _ => none

/-- **All that was asked and answered in dispatches.** -/
def talk (events : List (Event σ)) : List (Dispatch.Event σ) := events.filterMap talk?

/-- **The records that were received**, each as often as it was. -/
def received (events : List (Event σ)) : List Record := events.filterMap received?

/-- **The records that were acknowledged**, whatever came of it. -/
def acknowledged (events : List (Event σ)) : List Record := events.filterMap acknowledged?

@[simp] theorem talk_append (events later : List (Event σ)) :
    talk (events ++ later) = talk events ++ talk later := List.filterMap_append

@[simp] theorem received_append (events later : List (Event σ)) :
    received (events ++ later) = received events ++ received later := List.filterMap_append

@[simp] theorem acknowledged_append (events later : List (Event σ)) :
    acknowledged (events ++ later) = acknowledged events ++ acknowledged later :=
  List.filterMap_append

/-- Nothing could be received. -/
def isFault : Event σ → Bool
  | .answered .receive (.fault _) _ => true
  | _ => false

/-- **How often nothing could be received.** -/
def faults (events : List (Event σ)) : Nat := events.countP isFault

@[simp] theorem faults_nil : faults ([] : List (Event σ)) = 0 := rfl

@[simp] theorem faults_append (events later : List (Event σ)) :
    faults (events ++ later) = faults events + faults later := List.countP_append

theorem faults_cons (e : Event σ) (events : List (Event σ)) :
    faults (e :: events) = faults events + if isFault e then 1 else 0 := List.countP_cons

@[simp] theorem faults_map_told (notes : List Telemetry) :
    faults (notes.map .told : List (Event σ)) = 0 := by
  induction notes with
  | nil => rfl
  | cons note rest ih => exact ih

/-- What is read off deeds only is read off all events. -/
theorem filterMap_deeds {β : Type} {f : Event σ → Option β}
    (active : ∀ e x, f e = some x → isDeed e = true) (events : List (Event σ)) :
    (deeds events).filterMap f = events.filterMap f := by
  rw [deeds, List.filterMap_filter]
  congr 1
  funext e
  split
  · rfl
  · next idle => exact (Option.eq_none_iff_forall_ne_some.2 fun x eq => idle (active e x eq)).symm

theorem talk_deeds (events : List (Event σ)) : talk (deeds events) = talk events := by
  refine filterMap_deeds (fun e x read => ?_) events
  unfold talk? at read
  split at read
  · rfl
  · cases read

theorem received_deeds (events : List (Event σ)) : received (deeds events) = received events := by
  refine filterMap_deeds (fun e x read => ?_) events
  unfold received? at read
  split at read
  · rfl
  · cases read

theorem acknowledged_deeds (events : List (Event σ)) :
    acknowledged (deeds events) = acknowledged events := by
  refine filterMap_deeds (fun e x read => ?_) events
  unfold acknowledged? at read
  split at read
  · rfl
  · cases read

/-- What is told tells nothing of this. -/
theorem read_map_told (notes : List Telemetry) :
    talk (notes.map .told : List (Event σ)) = [] ∧
      received (notes.map .told : List (Event σ)) = [] ∧
      acknowledged (notes.map .told : List (Event σ)) = [] := by
  induction notes with
  | nil => exact ⟨rfl, rfl, rfl⟩
  | cons note rest ih => exact ih

/-- Of a dispatch all is read that was asked in it, and no more. -/
theorem read_ofDispatch (own : List (Dispatch.Event σ)) :
    Dispatch.letters (talk (own.map ofDispatch)) = Dispatch.letters own ∧
      Dispatch.refusals (talk (own.map ofDispatch)) = Dispatch.refusals own ∧
      received (own.map ofDispatch) = [] ∧ acknowledged (own.map ofDispatch) = [] := by
  induction own with
  | nil => exact ⟨rfl, rfl, rfl, rfl⟩
  | cons e rest ih =>
    obtain ⟨lettered, refused, unreceived, unacknowledged⟩ := ih
    cases e with
    | told note => exact ⟨lettered, refused, unreceived, unacknowledged⟩
    | answered q a state =>
      have head : talk ((.answered q a state :: rest).map ofDispatch) =
          .answered q a state :: talk (rest.map ofDispatch) := rfl
      rw [head, Dispatch.letters_cons, Dispatch.letters_cons, Dispatch.refusals_cons,
        Dispatch.refusals_cons, lettered, refused]
      exact ⟨rfl, rfl, unreceived, unacknowledged⟩

/-- Of a settlement only the acknowledgement is read. -/
theorem read_settlement {disposition : Disposition} (h : Settled W record s disposition events s') :
    talk events = [] ∧ received events = [] ∧
      acknowledged events = if disposition.shouldAck then [record] else [] := by
  cases h with
  | acknowledged notes final =>
    obtain ⟨untalked, unreceived, unacknowledged⟩ := @read_map_told σ notes
    rw [final]
    exact ⟨untalked, unreceived, congrArg (record :: ·) unacknowledged⟩
  | rewound notes =>
    obtain ⟨untalked, unreceived, unacknowledged⟩ := @read_map_told σ notes
    exact ⟨untalked, unreceived, unacknowledged⟩
  | left => exact ⟨rfl, rfl, rfl⟩

/-- The source is not asked in a dispatch. -/
theorem faults_ofDispatch (own : List (Dispatch.Event σ)) : faults (own.map ofDispatch) = 0 := by
  induction own with
  | nil => rfl
  | cons e rest ih => cases e <;> exact ih

/-- Nor is it in settling a record. -/
theorem faults_settlement {disposition : Disposition}
    (h : Settled W record s disposition events s') : faults events = 0 := by
  cases h with
  | acknowledged notes | rewound notes => exact faults_map_told notes
  | left => rfl

/-- **Of a treatment** the record is read that was received, its dispatch, and that it was
acknowledged if it was to be. -/
theorem read_treatment {t : Treatment σ} (h : t.In W policy) :
    Dispatch.letters (talk t.events) = Dispatch.letters t.talk ∧
      Dispatch.refusals (talk t.events) = Dispatch.refusals t.talk ∧
      received t.events = [t.record] ∧
      acknowledged t.events = if t.disposition.shouldAck then [t.record] else [] := by
  obtain ⟨untalked, unreceived, settled⟩ := read_settlement h.settle
  obtain ⟨lettered, refused, alone, unsettled⟩ := read_ofDispatch t.talk
  have talks : talk t.events = talk (t.talk.map ofDispatch) := by
    change talk (t.talk.map ofDispatch ++ t.settlement) = _
    rw [talk_append, untalked, List.append_nil]
  have receives : received t.events = [t.record] := by
    change t.record :: received (t.talk.map ofDispatch ++ t.settlement) = _
    rw [received_append, alone, unreceived, List.append_nil]
  have acknowledges : acknowledged t.events = acknowledged t.settlement := by
    change acknowledged (t.talk.map ofDispatch ++ t.settlement) = _
    rw [acknowledged_append, unsettled, List.nil_append]
  rw [talks, receives, acknowledges]
  exact ⟨lettered, refused, rfl, settled⟩

/-- **Of one treatment after the other** all this is read in their order. -/
theorem read_treatments {ts : List (Treatment σ)} (h : ∀ t ∈ ts, t.In W policy)
    (same : deeds events = ts.flatMap fun t => deeds t.events) :
    Dispatch.letters (talk events) = Dispatch.letters (ts.flatMap (·.talk)) ∧
      Dispatch.refusals (talk events) = Dispatch.refusals (ts.flatMap (·.talk)) ∧
      received events = ts.map (·.record) ∧
      acknowledged events = (ts.filter (·.disposition.shouldAck)).map (·.record) := by
  rw [← talk_deeds, ← received_deeds, ← acknowledged_deeds, same]
  clear same
  induction ts with
  | nil => exact ⟨rfl, rfl, rfl, rfl⟩
  | cons t rest ih =>
    obtain ⟨lettered, refused, receives, acknowledges⟩ := ih fun t mem => h t (.tail _ mem)
    obtain ⟨letters, refusals, one, settled⟩ := read_treatment (h t (.head _))
    rw [← talk_deeds] at letters refusals
    rw [← received_deeds] at one
    rw [← acknowledged_deeds] at settled
    simp only [List.flatMap_cons, List.map_cons, talk_append, received_append,
      acknowledged_append, Dispatch.letters_append, Dispatch.refusals_append, lettered, refused,
      receives, acknowledges, letters, refusals, one, settled, List.filter_cons]
    refine ⟨trivial, trivial, rfl, ?_⟩
    split <;> rfl

/-! ### Ways through the parts of a turn -/

/-- **A dispatch** among a worker's other doings. -/
theorem passage_dispatching_iff {disposition : Disposition} :
    Passage W (dispatching policy record) s events disposition s' ↔
      ∃ talk, events = talk.map ofDispatch ∧ Passage (fun q => W (.dispatch q))
        (Dispatch.dispatch policy record) s talk disposition s' :=
  Dialogue.passage_embed_iff (fun _ _ => rfl) (fun _ _ => rfl)

/-- Acknowledging a record. -/
theorem of_acknowledge {value : Unit} (h : Passage W (w.acknowledge record) s events value s') :
    ∃ answer, ∃ notes : List Telemetry, W (.ack record) s answer s' ∧
      events = .answered (.ack record) answer s' :: notes.map .told := by
  obtain ⟨answer, mid, later, rfl, asked, rest⟩ := passage_ask_iff.1 h
  match answer with
  | .ok () =>
    obtain ⟨rfl, -, rfl⟩ := passage_done_iff.1 rest
    exact ⟨_, [], asked, rfl⟩
  | .error fault =>
    obtain ⟨later, rfl, noted⟩ := passage_tell_iff.1 rest
    obtain ⟨rfl, -, rfl⟩ := passage_done_iff.1 noted
    exact ⟨_, [_], asked, rfl⟩

/-- **Settling a record.** -/
theorem settled_of_settle {disposition : Disposition} {value : Unit}
    (h : Passage W (w.settle record disposition) s events value s') :
    Settled W record s disposition events s' := by
  cases disposition with
  | acked | deadLettered =>
    obtain ⟨answer, notes, asked, rfl⟩ := of_acknowledge h
    exact .acknowledged notes rfl asked
  | retry delay attempt reason =>
    obtain ⟨later, rfl, noted⟩ := passage_tell_iff.1 h
    obtain ⟨ended, mid, later, rfl, waited, rest⟩ := passage_ask_iff.1 noted
    match ended with
    | .interrupted =>
      obtain ⟨later, rfl, leaves⟩ := passage_tell_iff.1 rest
      obtain ⟨rfl, -, rfl⟩ := passage_done_iff.1 leaves
      exact .left waited
    | .elapsed =>
      obtain ⟨answer, next, later, rfl, asked, answered⟩ := passage_ask_iff.1 rest
      match answer with
      | .ok () =>
        obtain ⟨rfl, -, rfl⟩ := passage_done_iff.1 answered
        exact .rewound [] waited asked
      | .error fault =>
        obtain ⟨later, rfl, failed⟩ := passage_tell_iff.1 answered
        obtain ⟨rfl, -, rfl⟩ := passage_done_iff.1 failed
        exact .rewound [_] waited asked

/-! ### Turns -/

/-- What is told before a record is dispatched is no deed. -/
theorem deeds_treated (mid : σ) (t : Treatment σ) (notes : List Telemetry) :
    deeds (.answered .isStopping false mid :: .answered .receive (.record t.record) t.received ::
      (notes.map .told ++ (t.talk.map ofDispatch ++ t.settlement))) = deeds t.events := by
  simp [Treatment.events]

/-- A fault is one. -/
theorem faults_faulted (mid next s' : σ) (fault : Transport.Fault) (notes : List Telemetry)
    (delay : Span) (ended : Rest) :
    faults (.answered .isStopping false mid :: .answered .receive (.fault fault) next ::
      (notes.map .told ++ [.answered (.rest delay) ended s'])) = 1 := by
  simp [faults_cons, isFault]

/-- There is none where a record is treated. -/
theorem faults_treated (mid : σ) {t : Treatment σ} (notes : List Telemetry) (h : t.In W policy) :
    faults (.answered .isStopping false mid :: .answered .receive (.record t.record) t.received ::
      (notes.map .told ++ (t.talk.map ofDispatch ++ t.settlement))) = 0 := by
  simp [faults_cons, isFault, faults_ofDispatch, faults_settlement h.settle]

/-- **How a turn goes**: what happened, the worker afterwards if its work is not over, and the
state that is left. -/
inductive Turned (W : World api σ) (policy : RetryPolicy) (w : Worker) (s : σ) :
    List (Event σ) → Option Worker → σ → Prop where
  | stopped {s' : σ} (stops : W .isStopping s true s') :
      Turned W policy w s [.answered .isStopping true s'] none s'
  | signalled {mid s' : σ} (going : W .isStopping s false mid)
      (signals : W .receive mid .signalled s') :
      Turned W policy w s
        [.answered .isStopping false mid, .answered .receive .signalled s'] (some w) s'
  | abandoned {mid s' : σ} (going : W .isStopping s false mid)
      (ends : W .receive mid .abandoned s') :
      Turned W policy w s
        [.answered .isStopping false mid, .answered .receive .abandoned s'] none s'
  | closed {mid s' : σ} {note : Telemetry} (going : W .isStopping s false mid)
      (closes : W .receive mid .closed s') :
      Turned W policy w s
        [.answered .isStopping false mid, .answered .receive .closed s', .told note] none s'
  | faulted {mid next s' : σ} {fault : Transport.Fault} {w' : Worker} {delay : Span}
      {ended : Rest} (notes : List Telemetry) (going : W .isStopping s false mid)
      (faults : W .receive mid (.fault fault) next) (waits : W (.rest delay) next ended s')
      (same : w'.summary = w.summary) :
      Turned W policy w s
        (.answered .isStopping false mid :: .answered .receive (.fault fault) next ::
          (notes.map .told ++ [.answered (.rest delay) ended s'])) (some w') s'
  | treated {mid : σ} {t : Treatment σ} {w' : Worker} (notes : List Telemetry)
      (going : W .isStopping s false mid)
      (receives : W .receive mid (.record t.record) t.received) (treats : t.In W policy)
      (counts : w'.summary = (w.count t.disposition).summary) :
      Turned W policy w s
        (.answered .isStopping false mid :: .answered .receive (.record t.record) t.received ::
          (notes.map .told ++ (t.talk.map ofDispatch ++ t.settlement))) (some w') t.settled

/-- Noting that something was received is only told. -/
theorem of_noteSuccess {w' : Worker} (h : Passage W w.noteSuccess s events w' s') :
    s' = s ∧ w'.summary = w.summary ∧ ∃ notes : List Telemetry, events = notes.map .told := by
  rw [noteSuccess] at h
  split at h
  · obtain ⟨later, rfl, recovered⟩ := passage_tell_iff.1 h
    obtain ⟨later, rfl, marked⟩ := passage_tell_iff.1 recovered
    obtain ⟨rfl, rfl, rfl⟩ := passage_done_iff.1 marked
    exact ⟨rfl, rfl, [_, _], rfl⟩
  · obtain ⟨rfl, rfl, rfl⟩ := passage_done_iff.1 h
    exact ⟨rfl, rfl, [], rfl⟩

/-- **A record that was received** is treated. -/
theorem of_onRecord {w' : Worker} (h : Passage W (onRecord policy w record) s events w' s') :
    ∃ (t : Treatment σ) (notes : List Telemetry), t.record = record ∧ t.received = s ∧
      t.settled = s' ∧ t.In W policy ∧ w'.summary = (w.count t.disposition).summary ∧
      events = notes.map .told ++ (t.talk.map ofDispatch ++ t.settlement) := by
  obtain ⟨first, later, noted, next, rfl, succeeds, rest⟩ := passage_bind_iff.1 h
  obtain ⟨rfl, same, notes, rfl⟩ := of_noteSuccess succeeds
  obtain ⟨told, later, disposition, dispatched, rfl, dispatches, counted⟩ :=
    passage_bind_iff.1 rest
  obtain ⟨talk, rfl, dispatch⟩ := passage_dispatching_iff.1 dispatches
  obtain ⟨settlement, last, value, settled, rfl, settles, ends⟩ := passage_bind_iff.1 counted
  obtain ⟨rfl, rfl, rfl⟩ := passage_done_iff.1 ends
  refine ⟨⟨record, next, talk, disposition, dispatched, settlement, s'⟩, notes, rfl, rfl, rfl,
    ⟨dispatch, settled_of_settle settles⟩, ?_, by rw [List.append_nil]⟩
  cases disposition <;> simp only [count, same]

/-- **A fault** is noted, and the worker waits. -/
theorem of_onFault {fault : Transport.Fault} {w' : Worker}
    (h : Passage W (w.onFault fault) s events w' s') :
    ∃ delay ended, ∃ notes : List Telemetry, W (.rest delay) s ended s' ∧ w'.summary = w.summary ∧
      events = notes.map .told ++ [.answered (.rest delay) ended s'] := by
  obtain ⟨later, rfl, metered⟩ := passage_tell_iff.1 h
  obtain ⟨later, rfl, noted⟩ := passage_tell_iff.1 metered
  obtain ⟨later, rfl, marked⟩ := passage_tell_iff.1 noted
  obtain ⟨ended, mid, later, rfl, waited, rest⟩ := passage_ask_iff.1 marked
  obtain ⟨rfl, rfl, rfl⟩ := passage_done_iff.1 rest
  exact ⟨_, ended, [_, _, _], waited, rfl, rfl⟩

/-- **A turn** goes in one of six ways. -/
theorem turned_of_turn {next : Option Worker}
    (h : Passage W (turn policy w) s events next s') : Turned W policy w s events next s' := by
  obtain ⟨stops, mid, later, rfl, asked, rest⟩ := passage_ask_iff.1 h
  match stops with
  | true =>
    obtain ⟨rfl, rfl, rfl⟩ := passage_done_iff.1 rest
    exact .stopped asked
  | false =>
    obtain ⟨arrival, received, later, rfl, receives, goes⟩ := passage_ask_iff.1 rest
    match arrival with
    | .signalled =>
      obtain ⟨rfl, rfl, rfl⟩ := passage_done_iff.1 goes
      exact .signalled asked receives
    | .abandoned =>
      obtain ⟨rfl, rfl, rfl⟩ := passage_done_iff.1 goes
      exact .abandoned asked receives
    | .closed =>
      obtain ⟨later, rfl, noted⟩ := passage_tell_iff.1 goes
      obtain ⟨rfl, rfl, rfl⟩ := passage_done_iff.1 noted
      exact .closed asked receives
    | .fault fault =>
      obtain ⟨first, last, w', rested, rfl, faults, ends⟩ := passage_bind_iff.1 goes
      obtain ⟨rfl, rfl, rfl⟩ := passage_done_iff.1 ends
      obtain ⟨delay, ended, notes, waits, same, rfl⟩ := of_onFault faults
      rw [List.append_nil]
      exact .faulted notes asked receives waits same
    | .record record =>
      obtain ⟨first, last, w', settled, rfl, handles, ends⟩ := passage_bind_iff.1 goes
      obtain ⟨rfl, rfl, rfl⟩ := passage_done_iff.1 ends
      obtain ⟨t, notes, rfl, rfl, rfl, treats, counts, rfl⟩ := of_onRecord handles
      rw [List.append_nil]
      exact .treated notes asked receives treats counts

/-- What follows a turn: the last word of a worker whose work is over, or the turns that are
left. -/
inductive Followed (W : World api σ) (policy : RetryPolicy) (limit : Nat) (w : Worker) (s : σ) :
    Option Worker → List (Event σ) → Option WorkerSummary → σ → Prop where
  | finished {note : Telemetry} : Followed W policy limit w s none [.told note] (some w.summary) s
  | further {w' : Worker} {events : List (Event σ)} {result : Option WorkerSummary} {s' : σ}
      (rest : Passage W (turns policy limit w') s events result s') :
      Followed W policy limit w s (some w') events result s'

/-- **Turns** are one turn and what follows it. -/
theorem turn_of_turns {limit : Nat} {result : Option WorkerSummary}
    (h : Passage W (turns policy (limit + 1) w) s events result s') :
    ∃ first later next mid, events = first ++ later ∧
      Passage W (turn policy w) s first next mid ∧
      Followed W policy limit w mid next later result s' := by
  obtain ⟨first, later, next, mid, rfl, turn, rest⟩ := passage_bind_iff.1 h
  refine ⟨first, later, next, mid, rfl, turn, ?_⟩
  match next with
  | none =>
    obtain ⟨later, rfl, noted⟩ := passage_tell_iff.1 rest
    obtain ⟨rfl, rfl, rfl⟩ := passage_done_iff.1 noted
    exact .finished
  | some w' => exact .further rest

/-- How many of some treatments came to a stage. -/
def settledAs (stage : Stage) (ts : List (Treatment σ)) : Nat :=
  ts.countP (·.disposition.stage == stage)

/-- A summary with treatments counted in. -/
def tally (summary : WorkerSummary) (ts : List (Treatment σ)) : WorkerSummary where
  acked := summary.acked + settledAs .acked ts
  deadLettered := summary.deadLettered + settledAs .deadLettered ts
  retried := summary.retried + settledAs .leftForRetry ts

/-- The first treatment is counted when its turn is over. -/
theorem tally_count (w : Worker) (t : Treatment σ) (ts : List (Treatment σ)) :
    tally (w.count t.disposition).summary ts = tally w.summary (t :: ts) := by
  simp only [tally, settledAs, List.countP_cons]
  cases t.disposition <;> simp [count, Disposition.stage] <;> omega

/-- **The deeds of turns are treatments**, and the summary counts them. What holds at the start and
is preserved by every answer can be used for each treatment. -/
theorem treatments_of_turns {P : σ → Prop} {Q : Treatment σ → Prop} {limit : Nat}
    {result : Option WorkerSummary}
    (keeps : ∀ q s a s', W q s a s' → P s → P s')
    (each : ∀ s mid t, P s → W .isStopping s false mid →
      W .receive mid (.record t.record) t.received → t.In W policy → Q t)
    (h : Passage W (turns policy limit w) s events result s') (holds : P s) :
    ∃ ts : List (Treatment σ), deeds events = (ts.flatMap fun t => deeds t.events) ∧
      (∀ t ∈ ts, Q t) ∧ ∀ summary, result = some summary → summary = tally w.summary ts := by
  induction limit generalizing w s events with
  | zero =>
    obtain ⟨rfl, rfl, rfl⟩ := passage_done_iff.1 h
    exact ⟨[], rfl, by simp, by simp⟩
  | succ limit ih =>
    obtain ⟨first, later, next, mid, rfl, turn, follows⟩ := turn_of_turns h
    have held : P mid := turn.preserves keeps holds
    -- only a turn that receives a record has deeds, and they are its treatment
    cases turned_of_turn turn with
    | stopped | abandoned | closed =>
      cases follows
      refine ⟨[], rfl, by simp, ?_⟩
      rintro summary ⟨⟩
      rfl
    | signalled =>
      cases follows with
      | further rest =>
        obtain ⟨ts, deeded, all, counted⟩ := ih rest held
        exact ⟨ts, by simpa using deeded, all, counted⟩
    | faulted notes _ _ _ same =>
      cases follows with
      | further rest =>
        obtain ⟨ts, deeded, all, counted⟩ := ih rest held
        exact ⟨ts, by simpa using deeded, all, same ▸ counted⟩
    | @treated _ t _ notes going receives treats counts =>
      cases follows with
      | further rest =>
        obtain ⟨ts, deeded, all, counted⟩ := ih rest held
        have one : Q t := each _ _ t holds going receives treats
        refine ⟨t :: ts, ?_, List.forall_mem_cons.2 ⟨one, all⟩, ?_⟩
        · rw [deeds_append, deeds_treated, deeded, List.flatMap_cons]
        · rwa [counts, tally_count] at counted

/-- **A run** is its turns. -/
theorem turns_of_run {id limit : Nat} {result : Option WorkerSummary}
    (h : Passage W (run policy id limit) s events result s') :
    ∃ first second later, events = .told first :: .told second :: later ∧
      Passage W (turns policy limit (fresh id)) s later result s' := by
  obtain ⟨later, rfl, started⟩ := passage_tell_iff.1 h
  obtain ⟨later, rfl, marked⟩ := passage_tell_iff.1 started
  exact ⟨_, _, later, rfl, marked⟩

/-! ### Turns that there are -/

/-- **A record that is acknowledged**: where there is a way through its dispatch that ends so, there
is one through the whole turn. -/
theorem exists_passage_acknowledging {disposition : Disposition} {s₁ s₂ s₃ : σ} (w : Worker)
    (going : W .isStopping s false s₁) (receives : W .receive s₁ (.record record) s₂)
    (dispatched : ∃ talk, Passage (fun q => W (.dispatch q)) (Dispatch.dispatch policy record) s₂
      talk disposition s₃)
    (final : disposition.shouldAck = true) (acks : W (.ack record) s₃ (.ok ()) s') :
    ∃ events, Passage W (turn policy w) s events
      (some ({ w with health := w.health.afterSuccess }.count disposition)) s' := by
  obtain ⟨talk, dispatched⟩ := dispatched
  have noted : ∃ events,
      Passage W w.noteSuccess s₂ events { w with health := w.health.afterSuccess } s₂ := by
    rw [noteSuccess]
    split
    · exact ⟨_, .tell <| .tell .done⟩
    · exact ⟨_, .done⟩
  have settled : ∀ w : Worker, ∃ events,
      Passage W (w.settle record disposition) s₃ events () s' := by
    intro w
    cases disposition with
    | acked | deadLettered => exact ⟨_, .ask acks .done⟩
    | retry => cases final
  obtain ⟨notes, noted⟩ := noted
  obtain ⟨settlement, settled⟩ := settled ({ w with health := w.health.afterSuccess }.count _)
  exact ⟨_, .ask going <| .ask receives <| passage_bind_iff.2 ⟨_, _, _, _, rfl,
    passage_bind_iff.2 ⟨_, _, _, _, rfl, noted, passage_bind_iff.2 ⟨_, _, _, _, rfl,
      passage_dispatching_iff.2 ⟨_, rfl, dispatched⟩,
      passage_bind_iff.2 ⟨_, _, _, _, rfl, settled, .done⟩⟩⟩, .done⟩⟩

/-- **A turn, and then others.** -/
theorem exists_passage_turns {limit : Nat} {w' : Worker} {mid : σ} {result : Option WorkerSummary}
    (one : ∃ events, Passage W (turn policy w) s events (some w') mid)
    (others : ∃ events, Passage W (turns policy limit w') mid events result s') :
    ∃ events, Passage W (turns policy (limit + 1) w) s events result s' := by
  obtain ⟨first, one⟩ := one
  obtain ⟨later, others⟩ := others
  exact ⟨_, passage_bind_iff.2 ⟨first, later, _, _, rfl, one, others⟩⟩

end MessageIntake.Worker
