import MessageIntake.Datastore.Fault
import MessageIntake.Dispatch
import MessageIntake.Metrics
import MessageIntake.Store.Memory
/-!
# Scenes

A rehearsal runs the library's dialogues in surroundings that are known in every detail: a
store in memory and a place for letters, both with a *script* that says which calls fail,
miss or take their time. A scene also keeps what was called, published and told.

Main entries: `Scene.cue`, which takes the next step of a script, and `Scene.perform`, which
answers the call as the step says.
-/

namespace MessageIntake.Rehearsal

/-! ### Scripts -/

/-- What becomes of a call. -/
inductive Action where
  /-- It is answered as it would be without a script. -/
  | pass
  /-- It finds nothing; a call that looks for nothing passes. -/
  | miss
  | fail (failure : Failure)

/-- **A step of a script**: what becomes of a call, after so many milliseconds. -/
structure Step where
  delay : Nat
  action : Action

/-- The step of a call for which the script has none left. -/
def Step.plain : Step := ⟨0, .pass⟩

/-- **The scripts of a scene**, for each kind of call the steps to come. -/
structure Scripts where
  findByEventId : List Step
  findByClientMsgId : List Step
  insert : List Step
  publish : List Step

namespace Scripts

/-- Scripts under which every call passes. -/
def plain : Scripts := ⟨[], [], [], []⟩

/-- The next step for a call, and the scripts that remain. -/
def next (s : Scripts) : Dispatch.Question → Step × Scripts
  | .store (.findByEventId _) =>
    (s.findByEventId.headD .plain, { s with findByEventId := s.findByEventId.tail })
  | .store (.findByClientMsgId _) =>
    (s.findByClientMsgId.headD .plain, { s with findByClientMsgId := s.findByClientMsgId.tail })
  | .store (.insert _) => (s.insert.headD .plain, { s with insert := s.insert.tail })
  | .publish .. => (s.publish.headD .plain, { s with publish := s.publish.tail })
  | .store (.lastSeq _) | .now | .factor => (.plain, s)

/-- The number of steps to come. -/
def size (s : Scripts) : Nat :=
  s.findByEventId.length + s.findByClientMsgId.length + s.insert.length + s.publish.length

end Scripts

/-! ### The scene -/

/-- **A scene.** What it keeps is listed with the newest first. -/
structure Scene where
  memory : Store.Memory
  /-- The database behind the store is gone: every call that passes fails. -/
  poolClosed : Bool
  scripts : Scripts
  calls : List Store.Question
  letters : List Letter
  told : List Telemetry

namespace Scene

/-- A scene in which nothing has happened. -/
def opening (poolClosed : Bool) (scripts : Scripts) : Scene :=
  ⟨.empty, poolClosed, scripts, [], [], []⟩

/-- **The time of every scene**, in year 0: no event is accepted with a time of its own so
early, so that a message tells whether its time was taken from the scene. -/
def clock : Timestamp := ⟨-62167219200, 0⟩

/-- What the meters of the scene show. -/
def metrics (s : Scene) : Metrics :=
  s.told.foldr (fun note metrics => metrics.hear note) .zero

/-- The log lines of the scene, the oldest first. -/
def log (s : Scene) : List LogLine :=
  s.told.reverse.filterMap fun
    | .log line => some line
    | .meter _ => none

/-- The scene after something was told. -/
def hear (note : Telemetry) (s : Scene) : Scene := { s with told := note :: s.told }

/-- **Taking a call's step** from the script; a call of the store is noted. -/
def cue (q : Dispatch.Question) (s : Scene) : Step × Scene :=
  let (step, scripts) := s.scripts.next q
  let calls :=
    match q with
    | .store call => call :: s.calls
    | _ => s.calls
  (step, { s with scripts, calls })

/-- A call of the store that passes. -/
def pass (q : Store.Question) (s : Scene) : Except Failure q.Result × Scene :=
  if s.poolClosed then (.error (Datastore.Fault.failure .poolClosed), s)
  else
    let (answer, memory) := s.memory.answer q
    (answer, { s with memory })

/-- What a call that looks for something answers when it misses. -/
def missed? : (q : Store.Question) → Option q.Result
  | .findByEventId _ => some none
  | .findByClientMsgId _ => some none
  | .insert _ => none
  | .lastSeq _ => none

/-- A call of the store under a step of its script. -/
def performCall (step : Step) (q : Store.Question) (s : Scene) :
    Except Failure q.Result × Scene :=
  match step.action with
  | .fail failure => (.error failure, s)
  | .pass => s.pass q
  | .miss =>
    match missed? q with
    | some result => (.ok result, s)
    | none => s.pass q

/-- **Answering a call** under a step of its script. -/
def perform (step : Step) (s : Scene) :
    (q : Dispatch.Question) → Dispatch.api.Answer q × Scene
  | .store q => s.performCall step q
  | .publish _ letter =>
    match step.action with
    | .fail failure => (.error failure, s)
    | _ => (.ok (), { s with letters := letter :: s.letters })
  | .now => (clock, s)
  | .factor => (.one, s)

/-- **The scene as surroundings** of one dialogue: nothing else happens meanwhile, so that
the steps' delays are of no matter. -/
def alone : Dialogue.Surroundings Dispatch.api Telemetry Scene where
  answer q s :=
    let (step, s) := s.cue q
    s.perform step q
  hear := hear

/-- Storing an event in the scene. -/
def persist (event : AcceptedEvent) (s : Scene) : Except Failure Outcome × Scene :=
  (Dispatch.withStore (Persistence.persist event)).run alone s

/-- Asking for the last number of a conversation. -/
def lastSeq (conversationId : String) (s : Scene) : Except Failure Int × Scene :=
  alone.answer (.store (.lastSeq conversationId)) s

/-- Dispatching a record in the scene. -/
def dispatch (policy : RetryPolicy) (record : Record) (s : Scene) : Disposition × Scene :=
  (Dispatch.dispatch policy record).run alone s

/-- What was called since an earlier scene, the oldest first. -/
def callsSince (s earlier : Scene) : List Store.Question :=
  (s.calls.take (s.calls.length - earlier.calls.length)).reverse

/-- What was published since an earlier scene, the oldest first. -/
def lettersSince (s earlier : Scene) : List Letter :=
  (s.letters.take (s.letters.length - earlier.letters.length)).reverse

end Scene

end MessageIntake.Rehearsal
