import MessageIntake.Datastore.Pool
/-!
# A host that takes connections

A host of a database of which it is known what it refuses connections with, if it does, and
how it answers the first query.
-/

namespace MessageIntake.Rehearsal

open Datastore (Fault)
open Datastore.Pool (Verification)

/-- **A host.** -/
structure Host where
  /-- The code and the wording with which it refuses connections. -/
  refuses : Option (String × String)
  refusesQuery : Option Fault
  /-- The first query came. -/
  queried : Bool
  told : List Telemetry

namespace Host

/-- The host before anything came. -/
def opening (refuses : Option (String × String)) (refusesQuery : Option Fault) : Host :=
  ⟨refuses, refusesQuery, false, []⟩

/-- The codes of refusals after which connecting is tried again. -/
def passingRefusals : List String := ["53300", "57P03"]

/-- How connecting to the host ends. Where there may be no connection, or connecting is
tried again and again, the time for it runs out. -/
def connect (h : Host) (maxConnections acquireTimeout : Nat) : Except Fault Unit :=
  if maxConnections = 0 || acquireTimeout = 0 then .error .poolTimedOut
  else
    match h.refuses with
    | none => .ok ()
    | some (code, detail) =>
      if passingRefusals.contains code then .error .poolTimedOut
      else .error (.server (some code) none detail)

/-- How verifying the host ends; no answer comes in no time. -/
def verify (h : Host) (seconds : Nat) : Verification :=
  if seconds = 0 then .timedOut
  else
    match h.refusesQuery with
    | some fault => .refused fault
    | none => .answered

/-- The host as surroundings of opening a pool. -/
def surroundings (d : Settings.Database) :
    Dialogue.Surroundings Datastore.Pool.api Telemetry Host where
  answer
    | .connect _, h => (h.connect d.maxConnections d.acquireTimeout, h)
    | .verify seconds, h => (h.verify seconds, { h with queried := true })
  hear note h := { h with told := note :: h.told }

/-- Opening a pool of connections to the host. -/
def createPool (d : Settings.Database) (h : Host) : Except Fault Datastore.Pool.Opened × Host :=
  (Datastore.Pool.create d).run (surroundings d) h

end Host

end MessageIntake.Rehearsal
