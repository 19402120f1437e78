import MessageIntake.Proofs.Log
import MessageIntake.Proofs.Worker.Streaks
/-!
# The health of a worker's transport

What a worker makes of the faults of its source, over any source and however its store, its outlet
and the transport answer: which mark its health meter bears, how many faults it has counted, and how
long it waits after one.

All of this goes by the streak of the source. The meter is marked at the start, after each fault,
and with the record that ends a long streak, and bears the right mark in between as well, since
nothing that is asked or told in a dispatch, or in settling a record, concerns it.

Main statement: whenever a worker asks for something, or has come to its end, its meter, its count
and its wait are those of its streak (`health_follows_streak`).
-/

namespace MessageIntake

open Transport (Health)

namespace Worker.Streaks

open Dialogue (Leaves exchanges)

/-! ### What moves have told -/

/-- A move of a worker. -/
abbrev Move := Dialogue.Move api Telemetry

/-- **What moves have told of the transport**: the mark on the health meter, the faults that are
counted, and the recoveries. -/
structure Tells (id : Nat) (moves : List Move) (mark : Bool) (errors recoveries : Nat) :
    Prop where
  gauge : (meters moves).healthy.find? id = some mark
  errors : (meters moves).consumerErrors = errors
  recoveries : recovered moves = recoveries

namespace Tells

variable {id : Nat} {moves : List Move} {mark : Bool} {errors recoveries : Nat}

/-- What does not concern the transport changes nothing. -/
theorem aside (h : Tells id moves mark errors recoveries) {note : Telemetry}
    (aside : concernsTransport note = false) :
    Tells id (moves ++ [.told note]) mark errors recoveries := by
  obtain ⟨healthy, same⟩ := hear_of_aside aside (meters moves)
  refine ⟨?_, ?_, ?_⟩
  · rw [meters_told, healthy, h.gauge]
  · rw [meters_told, same, h.errors]
  · have quiet : isRecovery (.told note : Move) = false := by
      cases note with
      | log line => exact aside
      | meter mark => rfl
    rw [recovered_concat, quiet, h.recoveries]
    rfl

/-- Nor does an answer. -/
theorem answered (h : Tells id moves mark errors recoveries) (question : Question)
    (answer : api.Answer question) :
    Tells id (moves ++ [.answered question answer ()]) mark errors recoveries := by
  refine ⟨?_, ?_, ?_⟩
  · rw [meters_answered, h.gauge]
  · rw [meters_answered, h.errors]
  · rw [recovered_concat, h.recoveries]
    rfl

/-- A fault is counted. -/
theorem fault (h : Tells id moves mark errors recoveries) :
    Tells id (moves ++ [.told (.meter .consumerError)]) mark (errors + 1) recoveries := by
  refine ⟨?_, ?_, ?_⟩
  · rw [meters_told, ← h.gauge]
    rfl
  · rw [meters_told, ← h.errors]
    rfl
  · rw [recovered_concat, h.recoveries]
    rfl

/-- The health is marked. -/
theorem marked (h : Tells id moves mark errors recoveries) (healthy : Bool) :
    Tells id (moves ++ [.told (.meter (.consumerHealthy id healthy))]) healthy errors
      recoveries := by
  refine ⟨?_, ?_, ?_⟩
  · rw [meters_told]
    exact Readings.find?_change_self ..
  · rw [meters_told, ← h.errors]
    rfl
  · rw [recovered_concat, h.recoveries]
    rfl

/-- A recovery is told of. -/
theorem recovery (h : Tells id moves mark errors recoveries) (w : Worker) :
    Tells id (moves ++ [.told (w.line .info "Kafka consumer recovered" [])]) mark errors
      (recoveries + 1) := by
  refine ⟨?_, ?_, ?_⟩
  · rw [meters_told, ← h.gauge]
    rfl
  · rw [meters_told, ← h.errors]
    rfl
  · rw [recovered_concat, h.recoveries]
    rfl

end Tells

/-- **The moves of a worker show its streak.** -/
def Shows (id : Nat) (moves : List Move) : Prop :=
  Tells id moves (decide (faultStreak (arrivals moves) < 5)) (faults moves)
    (recoveries (arrivals moves))

/-! ### Reading a worker's run -/

/-- **What a worker may ask for**, after some moves: its moves show its streak, and after a fault it
asks for nothing but the wait. -/
structure Asks (id : Nat) (moves : List Move) (question : Question) : Prop where
  shows : Shows id moves
  waits : ∀ fault, (exchanges moves).getLast? = some ⟨.receive, .fault fault⟩ →
    question = .rest (.ofSeconds (Nat.min (Nat.pow 2 (faultStreak (arrivals moves) - 1)) 60))

/-- A worker marks no health but its own. -/
def MarksOwn (id : Nat) (note : Telemetry) : Prop :=
  ∀ label healthy, note = .meter (.consumerHealthy label healthy) → label = id

/-- **The reading of a worker's run.** -/
abbrev reading (id : Nat) : Dialogue.Spec api Telemetry (List Move) :=
  Dialogue.reading (Asks id) (MarksOwn id)

/-- **A worker is ready** for the next question: its moves show its streak, its health is that of
what was received, and no fault is left to wait for. -/
structure Ready (w : Worker) (moves : List Move) : Prop where
  shows : Shows w.id moves
  health : w.health = healthAfter (arrivals moves)
  rested : ∀ fault, (exchanges moves).getLast? ≠ some ⟨.receive, .fault fault⟩

variable {w : Worker} {id : Nat} {moves : List Move} {policy : RetryPolicy} {record : Record}

theorem marksOwn_of_aside {note : Telemetry} (aside : concernsTransport note = false) :
    MarksOwn id note := by
  rintro label healthy rfl
  cases aside

theorem marksOwn_healthMark (w : Worker) (healthy : Bool) :
    MarksOwn w.id (w.healthMark healthy) := by
  rintro label other ⟨⟩
  rfl

theorem exchanges_told (note : Telemetry) :
    exchanges (moves ++ [.told note]) = exchanges moves := by
  rw [Dialogue.exchanges_append]
  exact List.append_nil _

theorem getLast?_exchanges (question : Question) (answer : api.Answer question) :
    (exchanges (moves ++ [.answered question answer ()])).getLast? = some ⟨question, answer⟩ := by
  rw [Dialogue.exchanges_append]
  exact List.getLast?_concat

theorem Shows.told (h : Shows id moves) {note : Telemetry}
    (aside : concernsTransport note = false) : Shows id (moves ++ [.told note]) := by
  rw [Shows, arrivals_told, faults_told]
  exact h.aside aside

theorem Shows.answered (h : Shows id moves) (question : Question) (answer : api.Answer question)
    (aside : question ≠ .receive) : Shows id (moves ++ [.answered question answer ()]) := by
  rw [Shows, arrivals_aside _ _ _ _ aside, faults_aside _ _ _ _ aside]
  exact Tells.answered h question answer

theorem Ready.told (h : Ready w moves) {note : Telemetry}
    (aside : concernsTransport note = false) : Ready w (moves ++ [.told note]) where
  shows := h.shows.told aside
  health := by rw [arrivals_told, h.health]
  rested := by
    rw [exchanges_told]
    exact h.rested

theorem Ready.answered (h : Ready w moves) (question : Question) (answer : api.Answer question)
    (aside : question ≠ .receive) : Ready w (moves ++ [.answered question answer ()]) where
  shows := h.shows.answered question answer aside
  health := by rw [arrivals_aside _ _ _ _ aside, h.health]
  rested := by
    rw [getLast?_exchanges]
    rintro fault ⟨⟩
    exact aside rfl

/-- A worker that is ready may ask for anything. -/
theorem Ready.asks (h : Ready w moves) (question : Question) : Asks w.id moves question where
  shows := h.shows
  waits fault last := absurd last (h.rested fault)

/-- **What leaves the source alone** leaves the worker ready. -/
theorem wp_of_unsourced {d : Talk α} {post : α → List Move → Prop} (alone : Unsourced d)
    (h : Ready w moves) (ends : ∀ value moves, Ready w moves → post value moves) :
    d.wp (reading w.id) post moves := by
  refine Dialogue.wp_of_confined (K := Ready w) ?_ ?_ ends alone h
  · exact fun question _ aside ready =>
      ⟨ready.asks question, fun answer => ready.answered question answer aside⟩
  · exact fun _ _ aside ready => ⟨marksOwn_of_aside aside, ready.told aside⟩

/-- What is received that is neither a record nor a fault leaves a worker ready. -/
theorem Ready.received (h : Ready w moves) {arrival : Arrival}
    (unrecorded : arrival.isRecord = false) (harmless : arrival.isFault = false) :
    Ready w (moves ++ [.answered .receive arrival ()]) := by
  obtain ⟨streak, recovers, health⟩ := faultStreak_aside unrecorded harmless (arrivals moves)
  refine ⟨?_, ?_, ?_⟩
  · rw [Shows, arrivals_receive, faults_receive, streak, recovers, harmless]
    exact Tells.answered h.shows .receive arrival
  · rw [arrivals_receive, health, h.health]
  · rw [getLast?_exchanges]
    rintro fault ⟨⟩
    cases harmless

/-- **After a fault** the worker counts it, marks its health, and waits. -/
theorem wp_onFault {fault : Transport.Fault} (h : Ready w moves) :
    (w.onFault fault).wp (reading w.id) (fun w' moves => w'.id = w.id ∧ Ready w' moves)
      (moves ++ [.answered .receive (.fault fault) ()]) := by
  have health : w.health.afterFault = healthAfter (.fault fault :: arrivals moves) :=
    congrArg Health.afterFault h.health
  have aside : concernsTransport
      ({ w with health := w.health.afterFault }.faultLine fault) = false := by
    rw [faultLine]
    split_ifs <;> exact concernsTransport_line (by decide)
  have told := ((Tells.answered h.shows .receive (.fault fault)).fault.aside aside).marked
    w.health.afterFault.isHealthy
  have shows : Shows w.id (moves ++ [.answered .receive (.fault fault) ()] ++
      [.told (.meter .consumerError)] ++
      [.told ({ w with health := w.health.afterFault }.faultLine fault)] ++
      [.told (w.healthMark w.health.afterFault.isHealthy)]) := by
    rw [Shows, arrivals_told, arrivals_told, arrivals_told, arrivals_receive, faults_told,
      faults_told, faults_told, faults_receive, ← isHealthy_healthAfter, ← health]
    exact told
  refine ⟨nofun, marksOwn_of_aside aside, marksOwn_healthMark w _, ⟨shows, fun _ _ => ?_⟩,
    fun rested => ⟨rfl, ?_⟩⟩
  · rw [arrivals_told, arrivals_told, arrivals_told, arrivals_receive, ← backoff_healthAfter,
      ← health]
  · refine ⟨shows.answered (.rest _) rested nofun, ?_, ?_⟩
    · rw [arrivals_aside _ (.rest _) rested () nofun, arrivals_told, arrivals_told, arrivals_told,
        arrivals_receive]
      exact health
    · rw [getLast?_exchanges]
      rintro fault ⟨⟩

/-- **After a record** the worker is healthy, and says so if it was not. -/
theorem wp_noteSuccess (h : Ready w moves) :
    w.noteSuccess.wp (reading w.id) (fun w' moves => w'.id = w.id ∧ Ready w' moves)
      (moves ++ [.answered .receive (.record record) ()]) := by
  have health : w.health.afterSuccess = healthAfter (.record record :: arrivals moves) := rfl
  have received := Tells.answered h.shows .receive (.record record)
  have recovers : w.health.recovers = true ↔ 5 ≤ faultStreak (arrivals moves) := by
    rw [h.health, recovers_healthAfter]
  rw [noteSuccess]
  split
  · next long =>
    have told := (received.recovery w).marked true
    refine ⟨?_, marksOwn_healthMark w _, rfl, ?_, ?_, ?_⟩
    · rintro label healthy ⟨⟩
    · rw [Shows, arrivals_told, arrivals_told, arrivals_receive, faults_told, faults_told,
        faults_receive, recoveries, if_pos (recovers.1 long)]
      exact told
    · rw [arrivals_told, arrivals_told, arrivals_receive]
      exact health
    · rw [exchanges_told, exchanges_told, getLast?_exchanges]
      rintro fault ⟨⟩
  · next short =>
    have few : faultStreak (arrivals moves) < 5 := Nat.not_le.1 (mt recovers.2 short)
    rw [decide_eq_true few] at received
    refine ⟨rfl, ?_, ?_, ?_⟩
    · rw [Shows, arrivals_receive, faults_receive, recoveries, if_neg (Nat.not_le.2 few)]
      exact received
    · rw [arrivals_receive]
      exact health
    · rw [getLast?_exchanges]
      rintro fault ⟨⟩

/-- **A record** is noted, dispatched and settled. -/
theorem wp_onRecord (h : Ready w moves) :
    (onRecord policy w record).wp (reading w.id) (fun w' moves => w'.id = w.id ∧ Ready w' moves)
      (moves ++ [.answered .receive (.record record) ()]) := by
  rw [onRecord, Dialogue.wp_bind]
  refine Dialogue.wp_mono (fun w' later ⟨same, ready⟩ => ?_) (wp_noteSuccess h)
  rw [← same, Dialogue.wp_bind]
  refine wp_of_unsourced (unsourced_dispatching policy record) ready
    fun disposition later ready => ?_
  rw [Dialogue.wp_bind]
  refine wp_of_unsourced (unsourced_settle _ record disposition) ready fun _ later ready => ?_
  exact ⟨rfl, ready.shows, ready.health, ready.rested⟩

/-- **A turn** leaves the worker ready, or its work is over. -/
theorem wp_turn (h : Ready w moves) :
    (turn policy w).wp (reading w.id)
      (fun next moves => (∀ w', next = some w' → w'.id = w.id ∧ Ready w' moves) ∧
        (next = none → Shows w.id moves)) moves := by
  refine ⟨h.asks _, fun stopping => ?_⟩
  have going := h.answered .isStopping stopping nofun
  match stopping with
  | true => exact ⟨nofun, fun _ => going.shows⟩
  | false =>
    refine ⟨going.asks _, fun arrival => ?_⟩
    match arrival with
    | .signalled =>
      refine ⟨?_, nofun⟩
      rintro w' ⟨⟩
      exact ⟨rfl, going.received rfl rfl⟩
    | .abandoned => exact ⟨nofun, fun _ => (going.received rfl rfl).shows⟩
    | .closed =>
      have aside : concernsTransport (w.line .info "Record stream closed" []) = false :=
        concernsTransport_line (by decide)
      exact ⟨marksOwn_of_aside aside, nofun, fun _ => ((going.received rfl rfl).told aside).shows⟩
    | .fault fault =>
      dsimp only
      rw [Dialogue.wp_bind]
      refine Dialogue.wp_mono (fun w' later ready => ⟨?_, nofun⟩) (wp_onFault going)
      rintro _ ⟨⟩
      exact ready
    | .record record =>
      dsimp only
      rw [Dialogue.wp_bind]
      refine Dialogue.wp_mono (fun w' later ready => ⟨?_, nofun⟩) (wp_onRecord going)
      rintro _ ⟨⟩
      exact ready

/-- **Turns** show the streak at their end. -/
theorem wp_turns (limit : Nat) (h : Ready w moves) :
    (turns policy limit w).wp (reading w.id) (fun _ => Shows w.id) moves := by
  induction limit generalizing w moves with
  | zero => exact h.shows
  | succ limit ih =>
    rw [turns, Dialogue.wp_bind]
    refine Dialogue.wp_mono (fun next later ⟨goes, ends⟩ => ?_) (wp_turn h)
    match next with
    | none =>
      have aside : concernsTransport w.stoppedLine = false := concernsTransport_line (by decide)
      exact ⟨marksOwn_of_aside aside, (ends rfl).told aside⟩
    | some w' =>
      obtain ⟨same, ready⟩ := goes w' rfl
      rw [← same]
      exact ih ready

/-- **A run** shows the streak whenever the worker asks for something, and at its end. -/
theorem wp_run (id limit : Nat) :
    (run policy id limit).wp (reading id) (fun _ => Shows id) [] := by
  have aside : concernsTransport ((fresh id).line .info "Worker started" []) = false :=
    concernsTransport_line (by decide)
  have ready : Ready (fresh id)
      [.told ((fresh id).line .info "Worker started" []), .told ((fresh id).healthMark true)] := by
    refine ⟨⟨?_, rfl, ?_⟩, rfl, nofun⟩
    · exact Readings.find?_change_self id true (fun _ => true) []
    · rw [recovered, List.countP_cons]
      rfl
  exact ⟨marksOwn_of_aside aside, marksOwn_healthMark (fresh id) true, wp_turns limit ready⟩

/-! ### Workers beside one another -/

variable {ι : Type} [DecidableEq ι]

/-- The moves of all but one. -/
def others (log : Log ι api Telemetry) (who : ι) : List Move :=
  Log.moves (log.filter (·.1 ≠ who))

/-- **The log shows a worker's streak**: its meter bears the mark of it, all its faults are counted
beside those of the others, and it has told of its recoveries. -/
structure ShowsAmong (id : Nat) (who : ι) (log : Log ι api Telemetry) : Prop where
  gauge : (meters log.moves).healthy.find? id =
    some (decide (faultStreak (arrivals (log.own who)) < 5))
  errors : (meters log.moves).consumerErrors =
    faults (log.own who) + (meters (others log who)).consumerErrors
  recovered : recovered (log.own who) = recoveries (arrivals (log.own who))

/-- A note marks the health of a worker, or no mark of it. -/
theorem find?_healthy_hear (id : Nat) (note : Telemetry) :
    (∃ healthy, note = .meter (.consumerHealthy id healthy) ∧
      ∀ m : Metrics, (m.hear note).healthy.find? id = some healthy) ∨
    (∀ healthy, note ≠ .meter (.consumerHealthy id healthy)) ∧
      ∀ m : Metrics, (m.hear note).healthy.find? id = m.healthy.find? id := by
  cases note with
  | log line => exact .inr ⟨nofun, fun _ => rfl⟩
  | meter mark =>
    cases mark with
    | consumerHealthy label healthy =>
      by_cases same : label = id
      · subst same
        exact .inl ⟨healthy, rfl, fun m => Readings.find?_change_self ..⟩
      · refine .inr ⟨?_, fun m => Readings.find?_change_of_ne (Ne.symm same) ..⟩
        rintro other ⟨⟩
        exact same rfl
    | _ => exact .inr ⟨nofun, fun _ => rfl⟩

/-- A note counts so many faults, wherever it is heard. -/
theorem consumerErrors_hear (note : Telemetry) :
    ∃ k, ∀ m : Metrics, (m.hear note).consumerErrors = m.consumerErrors + k := by
  cases note with
  | log line => exact ⟨0, fun _ => rfl⟩
  | meter mark =>
    cases mark with
    | consumerError => exact ⟨1, fun _ => rfl⟩
    | _ => exact ⟨0, fun _ => rfl⟩

/-- **What others do** changes neither the mark of a worker nor its count. -/
theorem meters_moves {id : Nat} {who : ι} (log : Log ι api Telemetry)
    (own : ∀ j healthy, (j, .told (.meter (.consumerHealthy id healthy))) ∈ log → j = who) :
    (meters log.moves).healthy.find? id = (meters (log.own who)).healthy.find? id ∧
      (meters log.moves).consumerErrors =
        (meters (log.own who)).consumerErrors + (meters (others log who)).consumerErrors := by
  induction log using List.reverseRecOn with
  | nil => exact ⟨rfl, rfl⟩
  | append_singleton log entry ih =>
    obtain ⟨actor, move⟩ := entry
    obtain ⟨gauge, errors⟩ := ih fun j healthy mem => own j healthy (List.mem_append_left _ mem)
    have owns : Log.own (log ++ [(actor, move)]) who =
        Log.own log who ++ if actor = who then [move] else [] :=
      (Log.own_append ..).trans (congrArg _ (Log.own_map actor who [move]))
    have left : others (log ++ [(actor, move)]) who =
        others log who ++ if actor = who then [] else [move] := by
      by_cases same : actor = who <;> simp [others, Log.moves, same]
    rw [Log.moves_concat, owns, left]
    cases move with
    | answered question answer state =>
      rw [meters_answered, gauge, errors]
      split <;> simp only [List.append_nil, meters_answered, and_self]
    | told note =>
      obtain ⟨k, counts⟩ := consumerErrors_hear note
      rw [meters_told, counts, errors]
      by_cases same : actor = who
      · subst same
        rw [if_pos rfl, if_pos rfl, List.append_nil, meters_told, counts]
        refine ⟨?_, by omega⟩
        rcases find?_healthy_hear id note with ⟨healthy, -, marks⟩ | ⟨-, keeps⟩
        · rw [marks, marks]
        · rw [keeps, keeps, gauge]
      · rw [if_neg same, if_neg same, List.append_nil, meters_told, counts]
        refine ⟨?_, by omega⟩
        rcases find?_healthy_hear id note with ⟨healthy, rfl, -⟩ | ⟨-, keeps⟩
        · exact absurd (own actor healthy (by simp)) same
        · rw [keeps, gauge]

/-- A run marks no health but the worker's own, however far it has come. -/
theorem marksOwn_of_by {id limit : Nat} {moves : List Move}
    {progress : Progress api Telemetry (Option WorkerSummary)}
    (come : progress.By (run policy id limit) moves) {note : Telemetry}
    (told : .told note ∈ moves) : MarksOwn id note := by
  cases progress with
  | waiting =>
    obtain rfl : moves = [] := come
    cases told
  | talking rest | finished value => exact (Leaves.reading come (wp_run id limit)).2 note told

/-- **What a worker's own moves show**, the log shows, if no other worker marks its health. -/
theorem Shows.among {id : Nat} {who : ι} {log : Log ι api Telemetry} (h : Shows id (log.own who))
    (own : ∀ j healthy, (j, .told (.meter (.consumerHealthy id healthy))) ∈ log → j = who) :
    ShowsAmong id who log := by
  obtain ⟨gauge, errors⟩ := meters_moves log own
  exact ⟨gauge.trans h.gauge, by rw [errors, h.errors], h.recoveries⟩

/-- **The health of a worker's transport follows its streak**, over any source, and whatever store,
outlet and transport answer. Whenever a worker that shares its identifier with no other asks for
something, and when it has come to its end, its meter bears the mark of its streak, each of its
faults was counted once, and a recovery was told of for each record after five faults or more; and
if the last that it was answered is a fault, it asks for nothing but the wait, which doubles with
each fault of the streak, up to a minute. A success ends a streak that is so long just if five
faults or more came before it. -/
theorem health_follows_streak {σ : Type} (W : ι → World api (Setting.Logged ι api Telemetry σ))
    (policy : RetryPolicy) (id limit : ι → Nat) {world : σ}
    {g : Gathering ι api Telemetry (Option WorkerSummary) (Setting.Logged ι api Telemetry σ)}
    (h : (Setting.logging (fun j => run policy (id j) (limit j)) W).Reachable ⟨world, []⟩ g)
    {i : ι} (own : ∀ j, id j = id i → j = i) :
    (∀ question rest, g.progress i = .talking (.ask question rest) →
      ShowsAmong (id i) i g.affairs.state.log ∧
        ∀ fault, (exchanges (g.affairs.state.log.own i)).getLast? =
            some ⟨.receive, .fault fault⟩ →
          question = .rest (.ofSeconds (Nat.min
            (Nat.pow 2 (faultStreak (arrivals (g.affairs.state.log.own i)) - 1)) 60))) ∧
      (∀ result, g.progress i = .finished result → ShowsAmong (id i) i g.affairs.state.log) ∧
      ∀ arrivals, (healthAfter arrivals).recovers = true ↔ 5 ≤ faultStreak arrivals := by
  have come := h.kept_log
  have alone : ∀ j healthy, (j, .told (.meter (.consumerHealthy (id i) healthy))) ∈
      g.affairs.state.log → j = i := by
    intro j healthy mem
    have told : .told (.meter (.consumerHealthy (id i) healthy)) ∈ g.affairs.state.log.own j := by
      simpa [Log.own] using mem
    exact own j (marksOwn_of_by (come j) told (id i) healthy rfl).symm
  refine ⟨fun question rest talks => ?_, fun result finished => ?_, recovers_healthAfter⟩
  · have left := come i
    rw [talks] at left
    have asks : Asks (id i) (g.affairs.state.log.own i) question :=
      (Leaves.reading left (wp_run (id i) (limit i))).1.1
    exact ⟨asks.shows.among alone, asks.waits⟩
  · have left := come i
    rw [finished] at left
    have shows : Shows (id i) (g.affairs.state.log.own i) :=
      (Leaves.reading left (wp_run (id i) (limit i))).1
    exact shows.among alone

/-- **The fifth fault in a row** makes a worker unhealthy, and it waits for sixteen seconds. -/
theorem fifth_fault_in_a_row :
    ∃ g, (Setting.logging (fun _ : Unit => run .default 7 6) fun _ _ _ _ _ => True).Reachable
        ⟨(), []⟩ g ∧
      (∃ rest, g.progress () = .talking (.ask (.rest (.ofSeconds 16)) rest)) ∧
      (meters g.affairs.state.log.moves).healthy.find? 7 = some false ∧
      (meters g.affairs.state.log.moves).consumerErrors = 5 := by
  let W : Unit → World api (Setting.Logged Unit api Telemetry Unit) := fun _ _ _ _ _ => True
  let S := Setting.logging (fun _ : Unit => run .default 7 6) W
  have answered (s : Setting.Logged Unit api Telemetry Unit) (question : Question)
      (answer : api.Answer question) : S.answers () question s answer
        ⟨(), s.log ++ [((), .answered question answer ())]⟩ := ⟨trivial, rfl⟩
  have opening : S.Reachable ⟨(), []⟩ (.opening ⟨(), []⟩) := .opening
  have run := opening.step () (.begin rfl)
    |>.step () (.tell rfl)
    |>.step () (.tell rfl)
    |>.step () (.ask rfl (answered _ .isStopping false))
    |>.step () (.ask rfl (answered _ .receive (.fault ⟨"broker down"⟩)))
    |>.step () (.tell rfl)
    |>.step () (.tell rfl)
    |>.step () (.tell rfl)
    |>.step () (.ask rfl (answered _ (.rest _) .elapsed))
    |>.step () (.ask rfl (answered _ .isStopping false))
    |>.step () (.ask rfl (answered _ .receive (.fault ⟨"broker down"⟩)))
    |>.step () (.tell rfl)
    |>.step () (.tell rfl)
    |>.step () (.tell rfl)
    |>.step () (.ask rfl (answered _ (.rest _) .elapsed))
    |>.step () (.ask rfl (answered _ .isStopping false))
    |>.step () (.ask rfl (answered _ .receive (.fault ⟨"broker down"⟩)))
    |>.step () (.tell rfl)
    |>.step () (.tell rfl)
    |>.step () (.tell rfl)
    |>.step () (.ask rfl (answered _ (.rest _) .elapsed))
    |>.step () (.ask rfl (answered _ .isStopping false))
    |>.step () (.ask rfl (answered _ .receive (.fault ⟨"broker down"⟩)))
    |>.step () (.tell rfl)
    |>.step () (.tell rfl)
    |>.step () (.tell rfl)
    |>.step () (.ask rfl (answered _ (.rest _) .elapsed))
    |>.step () (.ask rfl (answered _ .isStopping false))
    |>.step () (.ask rfl (answered _ .receive (.fault ⟨"broker down"⟩)))
    |>.step () (.tell rfl)
    |>.step () (.tell rfl)
    |>.step () (.tell rfl)
  obtain ⟨g, reached, ⟨rest, asks⟩, streak, counted, alone⟩ : ∃ g, S.Reachable ⟨(), []⟩ g ∧
      (∃ rest, g.progress () = .talking (.ask (.rest (.ofSeconds 16)) rest)) ∧
      faultStreak (arrivals (g.affairs.state.log.own ())) = 5 ∧
      faults (g.affairs.state.log.own ()) = 5 ∧ (others g.affairs.state.log ()).length = 0 :=
    ⟨_, run, ⟨_, rfl⟩, by decide +kernel, by decide +kernel, by decide +kernel⟩
  obtain ⟨shows, -⟩ := (health_follows_streak W .default (fun _ => 7) (fun _ => 6) reached
    (i := ()) fun _ _ => rfl).1 _ _ asks
  refine ⟨g, reached, ⟨rest, asks⟩, ?_, ?_⟩
  · rw [shows.gauge, streak]
    rfl
  · rw [shows.errors, counted, List.eq_nil_of_length_eq_zero alone]
    rfl

end Worker.Streaks

end MessageIntake
