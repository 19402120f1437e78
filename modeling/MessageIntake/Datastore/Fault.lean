import MessageIntake.Failure
/-!
# Faults of the datastore

What can go wrong between the library and its database, and which failure of a record it
makes. A fault of the connection passes; what the server reports is judged by its SQLSTATE
code: `23505` is a lost race for a unique key, codes of class `22` and the others of class
`23` refuse the row, and a list of codes and classes `08` and `53` passes. Everything else
is unexpected, and so retried.
-/

namespace MessageIntake.Datastore

/-- **A fault of the datastore.** -/
inductive Fault where
  | poolTimedOut
  | poolClosed
  | workerCrashed
  | rowNotFound
  | connection (detail : String)
  | tls (detail : String)
  | protocol (detail : String)
  | configuration (detail : String)
  | undecodable (detail : String)
  | undecodableColumn (column detail : String)
  | columnNotFound (name : String)
  | typeNotFound (name : String)
  | columnOutOfBounds (index length : Nat)
  /-- The server refused a statement. -/
  | server (code constraint : Option String) (detail : String)
  /-- Any other, in its own words. -/
  | other (detail : String)
  deriving DecidableEq, Repr

/-- What an SQLSTATE code says about a statement. -/
inductive Verdict where
  | notUnique
  | unavailable
  | rejected
  | unknown
  deriving DecidableEq, Repr

/-- The class of an SQLSTATE code: its first two characters. -/
def codeClass (code : String) : List Char := code.toList.take 2

/-- **Judging an SQLSTATE code.** The codes that pass are a serialization failure, a
deadlock, a lock that is not available and a cancelled statement, and the classes of
connection faults and of scarce resources. -/
def Verdict.ofCode (code : String) : Verdict :=
  if code == "23505" then .notUnique
  else if ["40001", "40P01", "55P03", "57014"].contains code then .unavailable
  else if codeClass code == ['0', '8'] || codeClass code == ['5', '3'] then .unavailable
  else if codeClass code == ['2', '2'] || codeClass code == ['2', '3'] then .rejected
  else .unknown

namespace Fault

/-- The wording of a fault. -/
def message : Fault → String
  | poolTimedOut => "pool timed out while waiting for an open connection"
  | poolClosed => "attempted to acquire a connection on a closed pool"
  | workerCrashed => "attempted to communicate with a crashed background worker"
  | rowNotFound => "no rows returned by a query that expected to return at least one row"
  | connection detail => "error communicating with database: " ++ detail
  | tls detail => "error occurred while attempting to establish a TLS connection: " ++ detail
  | protocol detail => "encountered unexpected or invalid data: " ++ detail
  | configuration detail => "error with configuration: " ++ detail
  | undecodable detail => "error occurred while decoding: " ++ detail
  | undecodableColumn column detail =>
    "error occurred while decoding column " ++ column ++ ": " ++ detail
  | columnNotFound name => "no column found for name: " ++ name
  | typeNotFound name => "type named " ++ name ++ " not found"
  | columnOutOfBounds index length =>
    "column index out of bounds: the len is " ++ Nat.repr length ++ ", but the index is " ++
      Nat.repr index
  | server _ _ detail => "error returned from database: " ++ detail
  | other detail => detail

/-- **The failure that a fault makes.** -/
def failure (fault : Fault) : Failure :=
  match fault with
  | poolTimedOut | poolClosed | workerCrashed | connection _ | tls _ | protocol _ =>
    .datastoreUnavailable fault.message
  | server code constraint _ =>
    match Verdict.ofCode (code.getD "") with
    | .notUnique => .notUnique constraint
    | .unavailable => .datastoreUnavailable fault.message
    | .rejected => .datastoreRejected fault.message
    | .unknown => .unexpected fault.message
  | _ => .unexpected fault.message

end Fault

end MessageIntake.Datastore
