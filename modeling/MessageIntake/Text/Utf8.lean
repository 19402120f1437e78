/-!
# Reading UTF-8

`Utf8.next` reads one character off the front of a byte list, or skips one maximal
ill-formed subpart: the longest start of a well-formed character that the bytes break
off, and one byte if there is none. `Utf8.scan` repeats it. Two readings follow: the
strict one (`Utf8.decode?`) refuses ill-formed bytes, the lossy one (`Utf8.decodeLossy`)
writes U+FFFD for each maximal subpart.
-/

namespace MessageIntake

/-- A payload or a piece of one. -/
abbrev Bytes := List UInt8

namespace Utf8

/-- The bytes of a text. -/
def encode (s : String) : Bytes :=
  s.toUTF8.toList

/-- Reads `n` continuation bytes, the first of them between `lo` and `hi`, into the bits
`acc` collected so far. The byte that breaks the character off is left unread. -/
def continuation : Nat → UInt8 → UInt8 → Nat → Bytes → Option Char × Bytes
  | 0, _, _, acc, rest => (some (Char.ofNat acc), rest)
  | _ + 1, _, _, _, [] => (none, [])
  | n + 1, lo, hi, acc, b :: rest =>
    if lo ≤ b && b ≤ hi then
      continuation n 0x80 0xbf (acc * 64 + (b.toNat - 0x80)) rest
    else
      (none, b :: rest)

/-- **One step of reading**, from a first byte on: the character there, or `none` for a
maximal ill-formed subpart, with the bytes that follow. -/
def next (b : UInt8) (rest : Bytes) : Option Char × Bytes :=
  if b < 0x80 then (some (Char.ofNat b.toNat), rest)
  else if 0xc2 ≤ b && b ≤ 0xdf then continuation 1 0x80 0xbf (b.toNat - 0xc0) rest
  else if b == 0xe0 then continuation 2 0xa0 0xbf 0 rest
  else if b == 0xed then continuation 2 0x80 0x9f 0xd rest
  else if 0xe1 ≤ b && b ≤ 0xef then continuation 2 0x80 0xbf (b.toNat - 0xe0) rest
  else if b == 0xf0 then continuation 3 0x90 0xbf 0 rest
  else if 0xf1 ≤ b && b ≤ 0xf3 then continuation 3 0x80 0xbf (b.toNat - 0xf0) rest
  else if b == 0xf4 then continuation 3 0x80 0x8f 4 rest
  else (none, rest)

theorem length_continuation_le (n : Nat) (lo hi : UInt8) (acc : Nat) (bytes : Bytes) :
    (continuation n lo hi acc bytes).2.length ≤ bytes.length := by
  induction n generalizing lo hi acc bytes with
  | zero => simp [continuation]
  | succ n ih =>
    cases bytes with
    | nil => simp [continuation]
    | cons b rest =>
      simp only [continuation]
      split
      · exact Nat.le_succ_of_le (ih _ _ _ rest)
      · exact Nat.le_refl _

/-- A step always gets past its first byte. -/
theorem length_next_le (b : UInt8) (rest : Bytes) : (next b rest).2.length ≤ rest.length := by
  simp only [next]
  repeat' split
  all_goals first
    | exact Nat.le_refl _
    | exact length_continuation_le ..

/-- The steps of reading `bytes`, onto the steps `done` already made, last first. -/
def scanOnto (done : List (Option Char)) : Bytes → List (Option Char)
  | [] => done.reverse
  | b :: rest =>
    scanOnto ((next b rest).1 :: done) (next b rest).2
  termination_by bytes => bytes.length
  decreasing_by
    exact Nat.lt_succ_of_le (length_next_le b rest)

/-- **Scanning**: the characters of a byte list in order, `none` for each maximal
ill-formed subpart. -/
def scan (bytes : Bytes) : List (Option Char) :=
  scanOnto [] bytes

/-- **Lossy reading**: U+FFFD stands for each maximal ill-formed subpart. -/
def decodeLossy (bytes : Bytes) : String :=
  String.ofList ((scan bytes).map (·.getD '\uFFFD'))

/-- The characters before the first ill-formed subpart. -/
def wellFormedStart (steps : List (Option Char)) : List Char :=
  (steps.takeWhile Option.isSome).filterMap id

/-- **Strict reading**: the text, or the number of bytes before the first ill-formed
subpart. -/
def decode? (bytes : Bytes) : Except Nat String :=
  let steps := scan bytes
  let chars := wellFormedStart steps
  if steps.all Option.isSome then .ok (String.ofList chars)
  else .error (String.ofList chars).utf8ByteSize

end Utf8

end MessageIntake
