import MessageIntake.Json
import MessageIntake.Binary64.Reading
import MessageIntake.Text.Utf8
/-!
# Reading JSON

A reader takes bytes and gives a value with the bytes that follow, or a fault: its cause
and where it stands, as the number of bytes left behind that place. A fault *at* a place
has read its last byte; a fault *before* a byte counts that byte as read as well, and at
the end of the input both are the end.

Values may be nested 127 levels deep. A number whose digits fit 64 bits keeps them all;
of a longer one the further digits only scale the result.

Main entry: `Json.ofBytes?`.
-/

namespace MessageIntake.Json

/-- **Why bytes are no JSON value.** -/
inductive Cause where
  | endInValue
  | endInArray
  | endInObject
  | endInString
  | expectedColon
  | expectedCommaOrBracket
  | expectedCommaOrBrace
  | expectedWord
  | expectedValue
  | invalidEscape
  | invalidNumber
  | numberOutOfRange
  | invalidCodePoint
  | controlCharacter
  | keyNotString
  | loneSurrogate
  | trailingComma
  | trailingCharacters
  | endOfHexEscape
  | tooDeep
  deriving DecidableEq, Repr

/-- The wording of a cause. -/
def Cause.message : Cause → String
  | endInValue => "EOF while parsing a value"
  | endInArray => "EOF while parsing a list"
  | endInObject => "EOF while parsing an object"
  | endInString => "EOF while parsing a string"
  | expectedColon => "expected `:`"
  | expectedCommaOrBracket => "expected `,` or `]`"
  | expectedCommaOrBrace => "expected `,` or `\x7d`"
  | expectedWord => "expected ident"
  | expectedValue => "expected value"
  | invalidEscape => "invalid escape"
  | invalidNumber => "invalid number"
  | numberOutOfRange => "number out of range"
  | invalidCodePoint => "invalid unicode code point"
  | controlCharacter => "control character (\\u0000-\\u001F) found while parsing a string"
  | keyNotString => "key must be a string"
  | loneSurrogate => "lone leading surrogate in hex escape"
  | trailingComma => "trailing comma"
  | trailingCharacters => "trailing characters"
  | endOfHexEscape => "unexpected end of hex escape"
  | tooDeep => "recursion limit exceeded"

/-- A cause and its place: the number of bytes behind it. -/
structure Fault where
  cause : Cause
  left : Nat
  deriving DecidableEq, Repr

/-- A fault whose last byte has been read. -/
def Fault.at (cause : Cause) (rest : Bytes) : Fault := ⟨cause, rest.length⟩

/-- A fault of the first byte of `rest`, or of the end of the input. -/
def Fault.before (cause : Cause) (rest : Bytes) : Fault := ⟨cause, rest.length - 1⟩

/-- What a reader gives: a value and the bytes that follow it, or a fault. -/
abbrev Reading (α : Type) := Except Fault (α × Bytes)

/-- Drops the white space of JSON. -/
def skipSpace : Bytes → Bytes :=
  List.dropWhile fun b => b == 0x20 || b == 0x09 || b == 0x0a || b == 0x0d

/-- Reads the rest of a word whose first letter is past. -/
def word (value : Json) : List UInt8 → Bytes → Reading Json
  | [], rest => .ok (value, rest)
  | _ :: _, [] => .error (.at .endInValue [])
  | w :: ws, b :: rest =>
    if b == w then word value ws rest else .error (.at .expectedWord rest)

/-! ### Numbers -/

/-- The byte is a decimal digit. -/
def isDigit (b : UInt8) : Bool := 0x30 ≤ b && b ≤ 0x39

/-- The first byte is a decimal digit. -/
def startsWithDigit : Bytes → Bool
  | [] => false
  | b :: _ => isDigit b

/-- The first byte opens an exponent. -/
def startsExponent : Bytes → Bool
  | [] => false
  | b :: _ => b == 0x65 || b == 0x45

/-- The greatest whole number of 64 bits. -/
def wordLimit : Nat := 0xFFFFFFFFFFFFFFFF

/-- Takes digits into `significand` while it fits 64 bits, counting them. -/
def absorb (significand count : Nat) : Bytes → Nat × Nat × Bytes
  | [] => (significand, count, [])
  | b :: rest =>
    let next := significand * 10 + (b.toNat - 0x30)
    if isDigit b && next ≤ wordLimit then absorb next (count + 1) rest
    else (significand, count, b :: rest)

/-- Drops digits, counting them. -/
def skipDigits (count : Nat) : Bytes → Nat × Bytes
  | [] => (count, [])
  | b :: rest => if isDigit b then skipDigits (count + 1) rest else (count, b :: rest)

/-- The nearest value to `10 ^ k`, which is finite up to `k = 308`. -/
def powerOfTen (k : Nat) : Binary64 := .ofDecimal false 1 1 k

/-- Divides by `10 ^ k`, in steps of `10 ^ 308` while the power is larger. -/
def scaleDown (x : Binary64) (k : Nat) : Binary64 :=
  if k ≤ 308 then x.div (powerOfTen k)
  else if x.isZero then x
  else scaleDown (x.div (powerOfTen 308)) (k - 308)
  termination_by k

/-- **The value of a float**: the significand scaled by one power of ten, each rounded.
It is out of range if that overflows. -/
def floatValue (negative : Bool) (significand : Nat) (exponent : Int) (rest : Bytes) :
    Reading Number :=
  let signed := fun (x : Binary64) => if negative then x.neg else x
  let base := Binary64.ofNat significand
  if exponent < 0 then .ok (.float (signed (scaleDown base exponent.natAbs)), rest)
  else if exponent ≤ 308 then
    let x := base.mul (powerOfTen exponent.toNat)
    if x.isFinite then .ok (.float (signed x), rest)
    else .error (.at .numberOutOfRange rest)
  else if base.isZero then .ok (.float (signed base), rest)
  else .error (.at .numberOutOfRange rest)

/-- The greatest exponent that is still counted. -/
def exponentLimit : Nat := 0x7FFFFFFF

/-- Takes the digits of an exponent; beyond the limit the value is out of range if it
grows, and zero otherwise. -/
def exponentDigits (negative growing : Bool) (significand : Nat) (scale : Int) (e : Nat) :
    Bytes → Reading Number
  | [] => floatValue negative significand (if growing then scale + e else scale - e) []
  | b :: rest =>
    if isDigit b then
      let next := e * 10 + (b.toNat - 0x30)
      if next ≤ exponentLimit then
        exponentDigits negative growing significand scale next rest
      else if growing && significand != 0 then .error (.at .numberOutOfRange rest)
      else .ok (.float (.finite negative 0), (skipDigits 0 rest).2)
    else
      floatValue negative significand (if growing then scale + e else scale - e) (b :: rest)

/-- An exponent, from behind its letter: a sign if wanted and at least one digit. -/
def exponentPart (negative : Bool) (significand : Nat) (scale : Int) (bytes : Bytes) :
    Reading Number :=
  let (growing, bytes) := match bytes with
    | 0x2b :: rest => (true, rest)
    | 0x2d :: rest => (false, rest)
    | rest => (true, rest)
  match bytes with
  | [] => .error (.at .endInValue [])
  | b :: rest =>
    if isDigit b then
      exponentDigits negative growing significand scale (b.toNat - 0x30) rest
    else .error (.at .invalidNumber rest)

/-- The end of a float: an exponent or nothing. -/
def floatEnd (negative : Bool) (significand : Nat) (scale : Int) (bytes : Bytes) :
    Reading Number :=
  if startsExponent bytes then exponentPart negative significand scale (bytes.drop 1)
  else floatValue negative significand scale bytes

/-- The digits behind the point, of which there is at least one. -/
def fractionPart (negative : Bool) (significand : Nat) (scale : Int) (bytes : Bytes) :
    Reading Number :=
  let (significand, count, rest) := absorb significand 0 bytes
  if count == 0 && !startsWithDigit rest then
    .error (.before (if rest.isEmpty then .endInValue else .invalidNumber) rest)
  else floatEnd negative significand (scale - count) (skipDigits 0 rest).2

/-- What follows the digits before the point. `scale` is the number of digits that did not
fit the significand; with none of them, and without point and exponent, the number is
whole. Zero with a sign, and a negative number beyond 64 bits, are floats. -/
def numberEnd (negative : Bool) (significand : Nat) (scale : Nat) (bytes : Bytes) :
    Reading Number :=
  match bytes with
  | 0x2e :: rest => fractionPart negative significand scale rest
  | _ =>
    if startsExponent bytes || scale != 0 then floatEnd negative significand scale bytes
    else if !negative then .ok (.integer significand, bytes)
    else if significand == 0 || significand > 0x8000000000000000 then
      .ok (.float (Binary64.ofNat significand).neg, bytes)
    else .ok (.integer (-(significand : Int)), bytes)

/-- A number from its first digit on; a leading zero stands alone. -/
def magnitude (negative : Bool) : Bytes → Reading Number
  | [] => .error (.at .endInValue [])
  | b :: rest =>
    if b == 0x30 then
      if startsWithDigit rest then .error (.before .invalidNumber rest)
      else numberEnd negative 0 0 rest
    else if isDigit b then
      let (significand, _, rest) := absorb (b.toNat - 0x30) 1 rest
      let (scale, rest) := skipDigits 0 rest
      numberEnd negative significand scale rest
    else .error (.at .invalidNumber rest)

/-! ### Strings -/

/-- The value of a hexadecimal digit. -/
def hexValue (b : UInt8) : Option Nat :=
  if isDigit b then some (b.toNat - 0x30)
  else if 0x61 ≤ b && b ≤ 0x66 then some (b.toNat - 0x57)
  else if 0x41 ≤ b && b ≤ 0x46 then some (b.toNat - 0x37)
  else none

/-- Four hexadecimal digits; all four are read before one is found wrong. -/
def hexEscape : Bytes → Reading Nat
  | a :: b :: c :: d :: rest =>
    match hexValue a, hexValue b, hexValue c, hexValue d with
    | some a, some b, some c, some d => .ok (((a * 16 + b) * 16 + c) * 16 + d, rest)
    | _, _, _, _ => .error (.at .invalidEscape rest)
  | _ => .error (.at .endInString [])

/-- The second half of a surrogate pair, from behind the first, whose units above U+D800
are `high`. -/
def secondSurrogate (high : Nat) : Bytes → Reading Char
  | [] => .error (.at .endInString [])
  | 0x5c :: [] => .error (.at .endInString [])
  | 0x5c :: 0x75 :: rest =>
    match hexEscape rest with
    | .error fault => .error fault
    | .ok (low, rest) =>
      if 0xdc00 ≤ low && low ≤ 0xdfff then
        .ok (Char.ofNat (0x10000 + high * 0x400 + (low - 0xdc00)), rest)
      else .error (.at .loneSurrogate rest)
  | 0x5c :: _ :: rest => .error (.at .endOfHexEscape rest)
  | _ :: rest => .error (.at .endOfHexEscape rest)

/-- A code point in hexadecimal, a surrogate only as the first of a pair. -/
def codePointEscape (bytes : Bytes) : Reading Char :=
  match hexEscape bytes with
  | .error fault => .error fault
  | .ok (n, rest) =>
    if 0xdc00 ≤ n && n ≤ 0xdfff then .error (.at .loneSurrogate rest)
    else if 0xd800 ≤ n && n ≤ 0xdbff then secondSurrogate (n - 0xd800) rest
    else .ok (Char.ofNat n, rest)

/-- An escape, from behind the backslash. -/
def escape : Bytes → Reading Char
  | [] => .error (.at .endInString [])
  | b :: rest =>
    if b == 0x22 then .ok ('\x22', rest)
    else if b == 0x5c then .ok ('\\', rest)
    else if b == 0x2f then .ok ('/', rest)
    else if b == 0x62 then .ok ('\x08', rest)
    else if b == 0x66 then .ok ('\x0c', rest)
    else if b == 0x6e then .ok ('\n', rest)
    else if b == 0x72 then .ok ('\r', rest)
    else if b == 0x74 then .ok ('\t', rest)
    else if b == 0x75 then codePointEscape rest
    else .error (.at .invalidEscape rest)

/-- The text that a string's bytes write. Ill-formed bytes are found at the closing mark
and count from the first of them on. -/
def stringText (content rest : Bytes) : Reading String :=
  match Utf8.decode? content with
  | .ok s => .ok (s, rest)
  | .error valid => .error ⟨.invalidCodePoint, rest.length + (content.length - valid)⟩

/-- The content of a string from behind its opening mark, its bytes collected last first.
`fuel` bounds the characters. -/
def stringContent : Nat → Bytes → Bytes → Reading String
  | 0, _, bytes => .error (.at .endInString bytes)
  | _ + 1, _, [] => .error (.at .endInString [])
  | fuel + 1, content, b :: rest =>
    if b == 0x22 then stringText content.reverse rest
    else if b == 0x5c then
      match escape rest with
      | .error fault => .error fault
      | .ok (c, rest) =>
        stringContent fuel ((Utf8.encode (String.ofList [c])).reverse ++ content) rest
    else if b < 0x20 then .error (.at .controlCharacter rest)
    else stringContent fuel (b :: content) rest

/-- A string from behind its opening mark. -/
def stringBody (bytes : Bytes) : Reading String :=
  stringContent (bytes.length + 1) [] bytes

/-! ### Arrays and objects -/

/-- The items of an array from behind one item, collected last first. -/
def moreItems (item : Bytes → Reading Json) : Nat → List Json → Bytes → Reading (List Json)
  | 0, _, bytes => .error (.before .endInArray bytes)
  | fuel + 1, done, bytes =>
    match skipSpace bytes with
    | [] => .error (.before .endInArray [])
    | 0x5d :: rest => .ok (done.reverse, rest)
    | 0x2c :: rest =>
      match skipSpace rest with
      | [] => .error (.before .endInValue [])
      | 0x5d :: rest => .error (.before .trailingComma (0x5d :: rest))
      | rest =>
        match item rest with
        | .error fault => .error fault
        | .ok (v, rest) => moreItems item fuel (v :: done) rest
    | rest => .error (.before .expectedCommaOrBracket rest)

/-- The items of an array from behind its bracket. -/
def items (item : Bytes → Reading Json) (bytes : Bytes) : Reading (List Json) :=
  match skipSpace bytes with
  | [] => .error (.before .endInArray [])
  | 0x5d :: rest => .ok ([], rest)
  | rest =>
    match item rest with
    | .error fault => .error fault
    | .ok (v, rest) => moreItems item (bytes.length + 1) [v] rest

/-- A member of an object from behind the opening mark of its key. -/
def member (item : Bytes → Reading Json) (bytes : Bytes) : Reading (String × Json) :=
  match stringBody bytes with
  | .error fault => .error fault
  | .ok (key, rest) =>
    match skipSpace rest with
    | [] => .error (.before .endInObject [])
    | 0x3a :: rest =>
      match item rest with
      | .error fault => .error fault
      | .ok (v, rest) => .ok ((key, v), rest)
    | rest => .error (.before .expectedColon rest)

/-- The members of an object from behind one member, collected last first. -/
def moreMembers (item : Bytes → Reading Json) :
    Nat → List (String × Json) → Bytes → Reading (List (String × Json))
  | 0, _, bytes => .error (.before .endInObject bytes)
  | fuel + 1, done, bytes =>
    match skipSpace bytes with
    | [] => .error (.before .endInObject [])
    | 0x7d :: rest => .ok (done.reverse, rest)
    | 0x2c :: rest =>
      match skipSpace rest with
      | [] => .error (.before .endInValue [])
      | 0x7d :: rest => .error (.before .trailingComma (0x7d :: rest))
      | 0x22 :: rest =>
        match member item rest with
        | .error fault => .error fault
        | .ok (m, rest) => moreMembers item fuel (m :: done) rest
      | rest => .error (.before .keyNotString rest)
    | rest => .error (.before .expectedCommaOrBrace rest)

/-- The members of an object from behind its brace. -/
def members (item : Bytes → Reading Json) (bytes : Bytes) : Reading (List (String × Json)) :=
  match skipSpace bytes with
  | [] => .error (.before .endInObject [])
  | 0x7d :: rest => .ok ([], rest)
  | 0x22 :: rest =>
    match member item rest with
    | .error fault => .error fault
    | .ok (m, rest) => moreMembers item (bytes.length + 1) [m] rest
  | rest => .error (.before .keyNotString rest)

/-- **A value**, in which arrays and objects may be nested `depth` levels deep. -/
def value (depth : Nat) (bytes : Bytes) : Reading Json :=
  match skipSpace bytes with
  | [] => .error (.before .endInValue [])
  | b :: rest =>
    if b == 0x6e then word .null [0x75, 0x6c, 0x6c] rest
    else if b == 0x74 then word (.bool true) [0x72, 0x75, 0x65] rest
    else if b == 0x66 then word (.bool false) [0x61, 0x6c, 0x73, 0x65] rest
    else if b == 0x2d then (magnitude true rest).map fun (n, rest) => (.number n, rest)
    else if isDigit b then
      (magnitude false (b :: rest)).map fun (n, rest) => (.number n, rest)
    else if b == 0x22 then (stringBody rest).map fun (s, rest) => (.string s, rest)
    else if b == 0x5b then
      match depth with
      | 0 => .error (.before .tooDeep (b :: rest))
      | depth + 1 => (items (value depth) rest).map fun (vs, rest) => (.array vs, rest)
    else if b == 0x7b then
      match depth with
      | 0 => .error (.before .tooDeep (b :: rest))
      | depth + 1 => (members (value depth) rest).map fun (ms, rest) => (.ofEntries ms, rest)
    else .error (.before .expectedValue (b :: rest))

/-- The deepest nesting that is read. -/
def depthLimit : Nat := 127

/-- The one value that the bytes hold, with white space around it and nothing else. -/
def read (bytes : Bytes) : Except Fault Json :=
  match value depthLimit bytes with
  | .error fault => .error fault
  | .ok (v, rest) =>
    match skipSpace rest with
    | [] => .ok v
    | rest => .error (.before .trailingCharacters rest)

/-! ### Places -/

/-- **The place** of a fault: the line, from one, and the number of bytes read in it. -/
def Fault.position (fault : Fault) (input : Bytes) : Nat × Nat :=
  let seen := input.take (input.length - fault.left)
  let line := 1 + seen.countP (· == 0x0a)
  let column := (seen.reverse.takeWhile (· != 0x0a)).length
  (line, column)

/-- The wording of a fault with its place. -/
def Fault.message (fault : Fault) (input : Bytes) : String :=
  let (line, column) := fault.position input
  fault.cause.message ++ " at line " ++ Nat.repr line ++ " column " ++ Nat.repr column

/-- **Reading JSON**: the value, or the wording of what is wrong with the bytes. -/
def ofBytes? (bytes : Bytes) : Except String Json :=
  match read bytes with
  | .ok v => .ok v
  | .error fault => .error (fault.message bytes)

end MessageIntake.Json
