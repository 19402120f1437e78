/-!
# Addresses of a database

An address is a URL: a scheme, and then the server with its port, if it has one. Only what
makes an address unusable is looked at here.
-/

namespace MessageIntake.Datastore

/-- **Why an address cannot be used.** -/
inductive AddressFault where
  /-- There is no scheme. -/
  | relative
  | badPort
  deriving DecidableEq, Repr

/-- The wording of a fault. -/
def AddressFault.message : AddressFault → String
  | relative => "relative URL without a base"
  | badPort => "invalid port number"

namespace Address

/-- The character may follow in a scheme. -/
def continuesScheme (c : Char) : Bool := c.isAlphanum || ['+', '-', '.'].contains c

/-- What comes after the scheme and its colon. -/
def afterScheme? (cs : List Char) : Option (List Char) :=
  match cs with
  | c :: _ =>
    match c.isAlpha, cs.dropWhile continuesScheme with
    | true, ':' :: rest => some rest
    | _, _ => none
  | [] => none

/-- The server in what comes after the scheme, with its user and its port. -/
def authority : List Char → List Char
  | '/' :: '/' :: rest => rest.takeWhile fun c => c != '/' && c != '?' && c != '#'
  | _ => []

/-- The part after the last user mark. -/
def withoutUser (cs : List Char) : List Char := (cs.reverse.takeWhile (· != '@')).reverse

/-- The number of a server's port as it is written: what comes after the first colon
outside brackets. -/
def portDigits (cs : List Char) : List Char :=
  match cs with
  | '[' :: rest => ((rest.dropWhile (· != ']')).dropWhile (· != ':')).drop 1
  | cs => (cs.dropWhile (· != ':')).drop 1

/-- The digits write the number of a port, or there are none. -/
def isPort (cs : List Char) : Bool :=
  cs.all Char.isDigit && cs.foldl (fun n c => n * 10 + (c.toNat - '0'.toNat)) 0 ≤ 0xFFFF

end Address

/-- **What makes an address unusable.** -/
def addressFault? (address : String) : Option AddressFault :=
  match Address.afterScheme? address.toList with
  | none => some .relative
  | some rest =>
    if Address.isPort (Address.portDigits (Address.withoutUser (Address.authority rest))) then none
    else some .badPort

example : addressFault? "db" = some .relative ∧ addressFault? "postgres://u:p@h:5432/d" = none ∧
    addressFault? "postgres://h:65536/d" = some .badPort := by decide +kernel

end MessageIntake.Datastore
