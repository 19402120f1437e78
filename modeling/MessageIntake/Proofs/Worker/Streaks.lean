import Mathlib.Tactic.SplitIfs
import MessageIntake.Metrics
import MessageIntake.Proofs.Precondition
import MessageIntake.Proofs.Worker.Turns
/-!
# The streak of a worker's source

The *streak* of a source is the number of its faults since the last record. The health that a worker
keeps of its transport is the streak as far as that can be counted (`healthAfter_streak`), and so is
all that it makes of it: whether the transport is healthy, whether a record ends a long streak, and
how long to wait after a fault.

Little that a worker tells concerns its transport: that it is healthy or not, that a fault was
counted, and that it has recovered. Nothing of a dispatch does (`aside_dispatch`), and nothing of
settling a record (`unsourced_settle`).
-/

namespace MessageIntake

open Transport (Health)

/-! ### Streaks -/

namespace Arrival

/-- A record was received. -/
def isRecord : Arrival → Bool
  | record _ => true
  | _ => false

/-- Nothing could be received. -/
def isFault : Arrival → Bool
  | fault _ => true
  | _ => false

end Arrival

namespace Worker.Streaks

variable {σ α : Type}

/-- **The streak**: the faults since the last record, or since the start, if what was received is
listed with the newest first. -/
def faultStreak (arrivals : List Arrival) : Nat :=
  (arrivals.takeWhile fun a => !a.isRecord).countP Arrival.isFault

/-- **The recoveries**: the records that came after a streak of five faults or more. -/
def recoveries : List Arrival → Nat
  | [] => 0
  | .record _ :: before => recoveries before + if 5 ≤ faultStreak before then 1 else 0
  | _ :: before => recoveries before

/-- The health after all that was received. -/
def healthAfter : List Arrival → Health
  | [] => .initial
  | .record _ :: before => (healthAfter before).afterSuccess
  | .fault _ :: before => (healthAfter before).afterFault
  | _ :: before => healthAfter before

theorem faultStreak_fault (fault : Transport.Fault) (before : List Arrival) :
    faultStreak (.fault fault :: before) = faultStreak before + 1 := List.countP_cons

/-- What is neither a record nor a fault leaves the streak alone. -/
theorem faultStreak_aside {arrival : Arrival} (unrecorded : arrival.isRecord = false)
    (harmless : arrival.isFault = false) (before : List Arrival) :
    faultStreak (arrival :: before) = faultStreak before ∧
      recoveries (arrival :: before) = recoveries before ∧
      healthAfter (arrival :: before) = healthAfter before := by
  cases arrival with
  | record record => cases unrecorded
  | fault fault => cases harmless
  | closed | signalled | abandoned => exact ⟨List.countP_cons, rfl, rfl⟩

/-- **The health counts the streak**, as far as it counts. -/
theorem healthAfter_streak (arrivals : List Arrival) :
    (healthAfter arrivals).streak = Nat.min (faultStreak arrivals) Health.streakLimit := by
  induction arrivals with
  | nil => rfl
  | cons arrival before ih =>
    cases arrival with
    | record record => rfl
    | fault fault =>
      rw [faultStreak_fault, healthAfter, Health.afterFault, ih, Health.streakLimit]
      simp only [Nat.min_def]
      split_ifs <;> omega
    | closed | signalled | abandoned => exact ih

theorem isHealthy_healthAfter (arrivals : List Arrival) :
    (healthAfter arrivals).isHealthy = decide (faultStreak arrivals < 5) := by
  rw [Health.isHealthy, healthAfter_streak, Health.unhealthyStreak, Health.streakLimit,
    decide_eq_decide]
  simp only [Nat.min_def]
  split_ifs <;> omega

/-- **A success ends a long streak** just if that is so. -/
theorem recovers_healthAfter (arrivals : List Arrival) :
    (healthAfter arrivals).recovers = true ↔ 5 ≤ faultStreak arrivals := by
  rw [Health.recovers, isHealthy_healthAfter]
  simp

/-- **The wait after a streak** doubles with each fault, up to a minute. -/
theorem backoff_healthAfter (arrivals : List Arrival) : (healthAfter arrivals).backoff =
    .ofSeconds (Nat.min (Nat.pow 2 (faultStreak arrivals - 1)) 60) := by
  have short : ∀ k < 6, Nat.pow 2 k ≤ 60 := by decide
  have long : ∀ k, 6 ≤ k → 60 ≤ Nat.pow 2 k := fun k le =>
    Nat.le_trans (by decide) (Nat.pow_le_pow_right Nat.two_pos le)
  rw [Health.backoff, healthAfter_streak]
  rcases Nat.lt_or_ge (faultStreak arrivals - 1) 6 with small | large
  · have counted : Nat.min (faultStreak arrivals) Health.streakLimit = faultStreak arrivals :=
      Nat.min_eq_left (by rw [Health.streakLimit]; omega)
    rw [counted, if_pos small]
    exact congrArg Span.ofSeconds (Nat.min_eq_left (short _ small)).symm
  · have counted : ¬Nat.min (faultStreak arrivals) Health.streakLimit - 1 < 6 := by
      rw [Health.streakLimit]
      simp only [Nat.min_def]
      split_ifs <;> omega
    rw [if_neg counted]
    exact congrArg Span.ofSeconds (Nat.min_eq_right (long _ large)).symm

/-! ### What moves tell -/

/-- What an event says was received. -/
def arrival? : Event σ → Option Arrival
  | .answered .receive arrival _ => some arrival
  | _ => none

/-- **What was received**, the newest first. -/
def arrivals (events : List (Event σ)) : List Arrival := (events.filterMap arrival?).reverse

/-- What an event makes of the meters. -/
def metered (m : Metrics) : Event σ → Metrics
  | .told note => m.hear note
  | .answered .. => m

/-- **What the meters show** after some events. -/
def meters (events : List (Event σ)) : Metrics := events.foldl metered .zero

/-- The event is the line that tells of a recovery. -/
def isRecovery : Event σ → Bool
  | .told (.log line) => line.message == "Kafka consumer recovered"
  | _ => false

/-- **How often a recovery was told of.** -/
def recovered (events : List (Event σ)) : Nat := events.countP isRecovery

/-- A note concerns the transport: it marks a fault or the health, or tells of a recovery. -/
def concernsTransport : Telemetry → Bool
  | .log line => line.message == "Kafka consumer recovered"
  | .meter .consumerError | .meter (.consumerHealthy ..) => true
  | .meter _ => false

section

variable (events : List (Event σ)) (note : Telemetry) (question : Question)
  (answer : api.Answer question) (s : σ)

theorem arrivals_told : arrivals (events ++ [.told note]) = arrivals events := by
  simp [arrivals, arrival?]

theorem arrivals_receive (arrival : Arrival) :
    arrivals (events ++ [.answered .receive arrival s]) = arrival :: arrivals events := by
  simp [arrivals, arrival?]

/-- Nothing is received when something else is asked for. -/
theorem arrivals_aside (aside : question ≠ .receive) :
    arrivals (events ++ [.answered question answer s]) = arrivals events := by
  have none : arrival? (.answered question answer s) = none := by
    unfold arrival?
    split
    · next same => cases same; exact absurd rfl aside
    · rfl
  simp [arrivals, none]

theorem meters_told : meters (events ++ [.told note]) = (meters events).hear note := by
  simp [meters, metered]

theorem meters_answered :
    meters (events ++ [.answered question answer s]) = meters events := by
  simp [meters, metered]

theorem faults_told : faults (events ++ [.told note]) = faults events := faults_append ..

theorem faults_receive (arrival : Arrival) :
    faults (events ++ [.answered .receive arrival s]) =
      faults events + if arrival.isFault then 1 else 0 := by
  rw [faults_append]
  cases arrival <;> rfl

theorem faults_aside (aside : question ≠ .receive) :
    faults (events ++ [.answered question answer s]) = faults events := by
  have harmless : isFault (.answered question answer s) = false := by
    unfold isFault
    split
    · next same => cases same; exact absurd rfl aside
    · rfl
  rw [faults_append, faults_cons, faults_nil, harmless]
  rfl

theorem recovered_concat (e : Event σ) :
    recovered (events ++ [e]) = recovered events + if isRecovery e then 1 else 0 := by
  rw [recovered, List.countP_append, List.countP_singleton, recovered]

end

/-- A log line tells of no recovery if it says something else. -/
theorem concernsTransport_line {level : LogLevel} {message : String}
    {fields : List (String × String)} (other : message ≠ "Kafka consumer recovered") :
    concernsTransport (.line level message fields) = false := by
  rw [Telemetry.line, concernsTransport]
  exact beq_false_of_ne other

/-- What does not concern the transport leaves its meters alone. -/
theorem hear_of_aside {note : Telemetry} (aside : concernsTransport note = false) (m : Metrics) :
    (m.hear note).healthy = m.healthy ∧ (m.hear note).consumerErrors = m.consumerErrors := by
  cases note with
  | log line => exact ⟨rfl, rfl⟩
  | meter mark =>
    cases mark with
    | consumerError | consumerHealthy => cases aside
    | _ => exact ⟨rfl, rfl⟩

/-! ### What does not concern the transport -/

/-- **A dialogue is aside** if nothing that it tells concerns the transport. -/
abbrev Aside {I : Interface} (d : Dialogue I Telemetry α) : Prop :=
  d.Confined (fun _ => True) fun note => concernsTransport note = false

theorem aside_findExisting (event : AcceptedEvent) : Aside (Persistence.findExisting event) := by
  refine ⟨trivial, fun found => ?_⟩
  match found with
  | .error _ | .ok (some _) => trivial
  | .ok none =>
    cases event.clientMsgId with
    | none => trivial
    | some id => exact ⟨trivial, fun _ => trivial⟩

theorem aside_round (event : AcceptedEvent) {refused : Failure → Persistence.Talk Outcome}
    (aside : ∀ failure, Aside (refused failure)) : Aside (Persistence.round event refused) := by
  refine (aside_findExisting event).bind fun found => ?_
  match found with
  | .error _ => trivial
  | .ok (some stored) => exact ⟨concernsTransport_line (by decide), trivial⟩
  | .ok none =>
    refine ⟨trivial, fun inserted => ?_⟩
    match inserted with
    | .ok message => exact ⟨concernsTransport_line (by decide), trivial⟩
    | .error failure => exact aside failure

/-- **Storing an event**, in however many rounds. -/
theorem aside_rounds (event : AcceptedEvent) (relookups left : Nat) :
    Aside (Persistence.rounds event relookups left) := by
  induction left generalizing relookups with
  | zero => exact aside_round event fun _ => trivial
  | succ left ih =>
    refine aside_round event fun failure => ?_
    split
    · exact ⟨concernsTransport_line (by decide), ih _⟩
    · trivial

section

variable (policy : RetryPolicy) (record : Record)

theorem aside_retryLater (attempt : Nat) (reason : Reason) :
    Aside (Dispatch.retryLater policy attempt reason) := by
  refine ⟨rfl, Dialogue.Confined.bind ?_ fun factor => trivial⟩
  rw [Dispatch.drawFactor]
  split
  · exact ⟨trivial, fun _ => trivial⟩
  · trivial

theorem aside_deadLetter (failureClass : FailureClass) (reason : Reason) (detail : String)
    (attempt : Nat) :
    Aside (Dispatch.deadLetter policy record failureClass reason detail attempt) := by
  refine ⟨trivial, fun failedAt => ⟨trivial, fun published => ?_⟩⟩
  match published with
  | .ok () => exact ⟨rfl, trivial⟩
  | .error failure => exact ⟨concernsTransport_line (by decide), aside_retryLater ..⟩

theorem aside_handleFailure (stage : Stage) (failure : Failure) :
    Aside (Dispatch.handleFailure policy record stage failure) := by
  rw [Dispatch.handleFailure]
  split
  · exact ⟨concernsTransport_line (by decide), aside_deadLetter ..⟩
  · split
    · exact ⟨concernsTransport_line (by decide), aside_deadLetter ..⟩
    · exact ⟨concernsTransport_line (by decide), aside_retryLater ..⟩

theorem aside_pipeline : Aside (Dispatch.pipeline record) := by
  refine ⟨concernsTransport_line (by decide), ?_⟩
  split
  · trivial
  · refine ⟨concernsTransport_line (by decide), trivial, fun receivedAt => ?_⟩
    dsimp only
    split
    · trivial
    · next accepted _ =>
      have stores : Aside (Persistence.persist accepted) := aside_rounds ..
      refine ⟨concernsTransport_line (by decide), ?_⟩
      refine (stores.embed fun _ _ => trivial).bind fun stored => ?_
      cases stored <;> trivial

/-- **A dispatch** tells nothing that concerns the transport. -/
theorem aside_dispatch : Aside (Dispatch.dispatch policy record) := by
  refine (aside_pipeline record).bind fun result => Dialogue.Confined.bind ?_ fun disposition =>
    ⟨rfl, concernsTransport_line (by decide), trivial⟩
  match result with
  | .ok outcome =>
    refine Dialogue.Confined.bind (Dialogue.confined_sayAll fun note mem => ?_) fun _ => trivial
    rcases List.mem_cons.1 mem with rfl | mem
    · rfl
    · split at mem
      · rw [List.mem_singleton.1 mem]
        rfl
      · cases mem
  | .error (stage, failure) => exact ⟨rfl, aside_handleFailure ..⟩

end

/-- **A dialogue leaves the source alone** if it asks for no record, and tells nothing that concerns
the transport. -/
abbrev Unsourced (d : Talk α) : Prop :=
  d.Confined (· ≠ Question.receive) fun note => concernsTransport note = false

theorem unsourced_dispatching (policy : RetryPolicy) (record : Record) :
    Unsourced (dispatching policy record) :=
  (aside_dispatch policy record).embed fun _ _ => nofun

/-- **Settling a record** leaves the source alone. -/
theorem unsourced_settle (w : Worker) (record : Record) (disposition : Disposition) :
    Unsourced (w.settle record disposition) := by
  have acknowledge : Unsourced (w.acknowledge record) := by
    refine ⟨nofun, fun answer => ?_⟩
    match answer with
    | .ok () => trivial
    | .error fault => exact ⟨concernsTransport_line (by decide), trivial⟩
  match disposition with
  | .acked _ | .deadLettered .. => exact acknowledge
  | .retry delay attempt reason =>
    refine ⟨concernsTransport_line (by decide), nofun, fun rested => ?_⟩
    match rested with
    | .interrupted => exact ⟨concernsTransport_line (by decide), trivial⟩
    | .elapsed =>
      refine ⟨nofun, fun answer => ?_⟩
      match answer with
      | .ok () => trivial
      | .error fault => exact ⟨concernsTransport_line (by decide), trivial⟩

end Worker.Streaks

end MessageIntake
