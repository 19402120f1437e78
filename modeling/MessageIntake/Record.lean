import MessageIntake.Text.Utf8
/-!
# Records

One record as the transport delivers it, and its place in the transport's log.
-/

namespace MessageIntake

/-- **A record.** `attempt` is 1 on the first delivery and grows by one with each further
one; a record without payload is a tombstone. -/
structure Record where
  topic : String
  partition : Int
  offset : Int
  key : Option String
  payload : Option Bytes
  attempt : Nat
  deriving DecidableEq, Repr

/-- The record as it is delivered next. -/
def Record.again (record : Record) : Record := { record with attempt := record.attempt + 1 }

end MessageIntake
