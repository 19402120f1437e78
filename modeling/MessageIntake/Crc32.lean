import MessageIntake.Text.Utf8
/-!
# CRC-32

The cyclic redundancy check of 32 bits with the reflected polynomial `EDB88320`, starting
from all ones and ending with all bits turned round.
-/

namespace MessageIntake.Crc32

/-- The reflected polynomial. -/
def polynomial : UInt32 := 0xEDB88320

/-- The remainder after one more bit. -/
def shift (r : UInt32) : UInt32 :=
  if r &&& 1 = 1 then (r >>> 1) ^^^ polynomial else r >>> 1

/-- The remainder after one more byte. -/
def feed (r : UInt32) (b : UInt8) : UInt32 :=
  Nat.repeat shift 8 (r ^^^ b.toUInt32)

/-- **The check value** of some bytes. -/
def checksum (bytes : Bytes) : UInt32 :=
  bytes.foldl feed 0xFFFFFFFF ^^^ 0xFFFFFFFF

/-- The check value of the digits from one to nine, by which a CRC is known. -/
example : checksum [49, 50, 51, 52, 53, 54, 55, 56, 57] = 0xCBF43926 := by decide +kernel

end MessageIntake.Crc32
