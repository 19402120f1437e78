import MessageIntake.Rehearsal.Post
import MessageIntake.Rehearsal.Scene
/-!
# Workers on a simulated clock

Workers are rehearsed together in one scene, each at its post. The clock stands still while
any of them can go on, and then moves to the next moment at which something is due. A moment
begins with what is due to the stop signal; the workers then go on in their order.

Main entry: `Cast.play`.
-/

namespace MessageIntake.Rehearsal

/-- **The hall**: what the workers share. -/
structure Hall where
  now : Nat
  scene : Scene
  /-- So many inserts wait for one another before the first of them is answered. -/
  parties : Nat
  /-- The inserts that have come. -/
  arrived : Nat
  /-- The moments at which something may be due. -/
  alarms : List Nat

/-- What a question that was asked waits for. -/
structure Ticket where
  due : Nat
  step : Step
  /-- It waits for the other parties too. -/
  gathers : Bool

/-- The hall and the post of the worker that is on. -/
structure View where
  hall : Hall
  post : Post

namespace View

/-- The view with an alarm set. -/
def alarm (time : Nat) (v : View) : View :=
  { v with hall := { v.hall with alarms := time :: v.hall.alarms } }

/-- The view after something was told. -/
def hear (note : Telemetry) (v : View) : View :=
  { v with hall := { v.hall with scene := v.hall.scene.hear note } }

/-- The call is an insert. -/
def isInsert : Dispatch.Question → Bool
  | .store (.insert _) => true
  | _ => false

/-- An insert has come; the last of the parties wakes the others. -/
def arrive (v : View) : View :=
  let arrived := v.hall.arrived + 1
  let v := { v with hall := { v.hall with arrived } }
  if arrived = v.hall.parties then v.alarm v.hall.now else v

/-- **Asking a question**: what it has to wait for. -/
def ask (v : View) : Worker.Question → Ticket × View
  | .dispatch q =>
    let (step, scene) := v.hall.scene.cue q
    let due := v.hall.now + step.delay
    let gathers := isInsert q && v.hall.arrived < v.hall.parties
    let v := { v with hall := { v.hall with scene } }
    let v := if isInsert q then v.arrive else v
    (⟨due, step, gathers⟩, if step.delay = 0 then v else v.alarm due)
  | .rest span =>
    let due := v.hall.now + span.millisUp
    (⟨due, .plain, false⟩, v.alarm due)
  | .isStopping | .receive | .ack _ | .nack _ => (⟨v.hall.now, .plain, false⟩, v)

/-- The ticket waits for nothing more. -/
def isDue (v : View) (t : Ticket) : Bool :=
  t.due ≤ v.hall.now && (!t.gathers || v.hall.parties ≤ v.hall.arrived)

/-- The answer of a post, with the view changed as it was. -/
def ofPost {α : Type} (v : View) (answer : α × Post) : α × View :=
  (answer.1, { v with post := answer.2 })

/-- An answer that is there at once. -/
def atOnce {α : Type} (answer : α × View) : Option α × View := (some answer.1, answer.2)

/-- Setting an alarm for the end of a silence. -/
def watchSilence (v : View) : View :=
  match v.post.silentUntil with
  | some time => v.alarm time
  | none => v

/-- **Answering a question**, if what it waits for has come. -/
def answer? (v : View) (t : Ticket) :
    (q : Worker.Question) → Option (Worker.api.Answer q) × View
  | .dispatch q =>
    if v.isDue t then
      let (answer, scene) := v.hall.scene.perform t.step q
      (some answer, { v with hall := { v.hall with scene } })
    else (none, v)
  | .isStopping => (some v.post.signal.on, v)
  | .receive =>
    let (arrival, v) := v.ofPost (v.post.receive v.hall.now)
    (arrival, v.watchSilence)
  | .ack record => atOnce (v.ofPost (v.post.ack v.hall.now record))
  | .nack record => atOnce (v.ofPost (v.post.nack v.hall.now record))
  | .rest _ => v.ofPost (v.post.rest v.hall.now t.due)

/-- **Going on with a dialogue** as far as it goes at this moment. What is left of it comes
with the ticket of the question that it ends at. -/
def goOn {α : Type} : Worker.Talk α → Option Ticket → View →
    Worker.Talk α × Option Ticket × View
  | .done value, _, v => (.done value, none, v)
  | .tell note rest, _, v => goOn rest none (v.hear note)
  | .ask q rest, ticket, v =>
    let (ticket, v) :=
      match ticket with
      | some ticket => (ticket, v)
      | none => v.ask q
    match v.answer? ticket q with
    | (some answer, v) => goOn (rest answer) none v
    | (none, v) => (.ask q rest, some ticket, v)

end View

/-! ### Workers among one another -/

/-- **A worker on stage**: what is left of its run, and its post. -/
structure Player where
  part : Worker.Talk (Option WorkerSummary)
  ticket : Option Ticket
  post : Post

/-- The summary of a worker whose work is over. -/
def Player.summary? (p : Player) : Option WorkerSummary :=
  match p.part with
  | .done summary => summary
  | _ => none

/-- **The cast** of a rehearsal, and what is to happen to the stop signal. -/
structure Cast where
  hall : Hall
  players : List Player
  stops : List (Nat × StopEvent)

namespace Cast

/-- The cast after the stop events that are due. An event is not before the one that it
follows in the list. -/
def hearStops (now : Nat) (players : List Player) :
    List (Nat × StopEvent) → List Player × List (Nat × StopEvent)
  | [] => (players, [])
  | (time, event) :: rest =>
    if time ≤ now then
      hearStops now (players.map fun p =>
        { p with post := { p.post with signal := p.post.signal.after event } }) rest
    else (players, (time, event) :: rest)

/-- Each worker goes on in turn. -/
def act (hall : Hall) : List Player → Hall × List Player
  | [] => (hall, [])
  | p :: rest =>
    let (part, ticket, v) := View.goOn p.part p.ticket ⟨hall, p.post⟩
    let (hall, rest) := act v.hall rest
    (hall, ⟨part, ticket, v.post⟩ :: rest)

/-- **One moment** of the rehearsal. -/
def moment (c : Cast) : Cast :=
  let (players, stops) := hearStops c.hall.now c.players c.stops
  let (hall, players) := act c.hall players
  ⟨hall, players, stops⟩

/-- All work is over. -/
def isOver (c : Cast) : Bool := c.players.all fun p => p.summary?.isSome

/-- The longest rehearsal: two hundred days. -/
def timeLimit : Nat := 200 * 24 * 3600 * 1000

/-- **The next moment** at which something is due. -/
def next? (c : Cast) : Option Nat :=
  (c.hall.alarms ++ (c.stops.head?.map (·.1)).toList).min?

/-- The cast at a later moment. -/
def later (time : Nat) (c : Cast) : Cast :=
  { c with hall := { c.hall with now := time, alarms := c.hall.alarms.filter (time < ·) } }

/-- At most so many moments. -/
def moments : Nat → Cast → Cast
  | 0, c => c
  | left + 1, c =>
    let c := c.moment
    if c.isOver then c
    else
      match c.next? with
      | some time => if timeLimit < time then c else moments left (c.later time)
      | none => c

/-- How often a worker can turn to its source: once for each item, as often again as its
policy lets it, and once for each step of a script and each stop event. -/
def turnLimit (policy : RetryPolicy) (scene : Scene) (posts : List Post)
    (stops : List (Nat × StopEvent)) : Nat :=
  ((posts.flatMap (·.items)).length + 1) * (policy.maxAttempts + 2) +
    scene.scripts.size + stops.length + 1

/-- The questions of one turn that may have to wait. -/
def waitsPerTurn : Nat := 16

/-- The cast before its first moment; the workers are numbered from `firstId`. -/
def opening (policy : RetryPolicy) (scene : Scene) (parties firstId limit : Nat)
    (posts : List Post) (stops : List (Nat × StopEvent)) : Cast where
  hall := ⟨0, scene, parties, 0, []⟩
  players := posts.mapIdx fun i post => ⟨Worker.run policy (firstId + i) limit, none, post⟩
  stops

/-- **Playing it out**: the cast when all work is over, or when nothing more comes within
the longest rehearsal. -/
def play (policy : RetryPolicy) (scene : Scene) (parties firstId : Nat) (posts : List Post)
    (stops : List (Nat × StopEvent)) : Cast :=
  let limit := turnLimit policy scene posts stops
  moments (posts.length * limit * waitsPerTurn + stops.length + 2)
    (opening policy scene parties firstId limit posts stops)

end Cast

end MessageIntake.Rehearsal
