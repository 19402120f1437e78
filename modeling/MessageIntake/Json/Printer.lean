import MessageIntake.Json
import MessageIntake.Binary64.Shortest
/-!
# Writing JSON

The compact text of a value: no blanks, members in order, in strings only what must be
escaped. Floats have the fewest digits that read back, in place from `0.00001` up to below
`10¹⁶` and with a signed exponent outside.
-/

namespace MessageIntake.Json

/-- **Floats in JSON**: `1.0`, `0.00001`, `1e+16`, `1e-6`. JSON has no infinities and no
"not a number"; they are written as null. -/
def floatLayout : Binary64.Layout where
  inPlace e := -5 ≤ e && e < 16
  keepPoint := true
  plusSign := true
  infinityText := "null"
  nanText := "null"

/-- The text of a number. -/
def Number.text : Number → String
  | integer n => (if n < 0 then "-" else "") ++ Nat.repr n.natAbs
  | float x => floatLayout.text x

/-- A hexadecimal digit in lower case. -/
def hexDigit (n : Nat) : Char :=
  if n < 10 then Char.ofNat ('0'.toNat + n) else Char.ofNat ('a'.toNat + (n - 10))

/-- **Escaping** in strings: the quotation mark, the backslash and the characters below
U+0020 are escaped, by a letter where there is one; everything else stands for itself. -/
def escapeChar (c : Char) : List Char :=
  if c == '\x22' then ['\\', '\x22']
  else if c == '\\' then ['\\', '\\']
  else if c == '\x08' then ['\\', 'b']
  else if c == '\x0c' then ['\\', 'f']
  else if c == '\n' then ['\\', 'n']
  else if c == '\r' then ['\\', 'r']
  else if c == '\t' then ['\\', 't']
  else if c.toNat < 0x20 then
    ['\\', 'u', '0', '0', hexDigit (c.toNat / 16), hexDigit (c.toNat % 16)]
  else [c]

/-- A string in its quotation marks. -/
def quote (s : String) : List Char :=
  '\x22' :: (s.toList.flatMap escapeChar ++ ['\x22'])

/-- Joins the written parts of an array or object with commas. -/
def commaSeparated : List (List Char) → List Char
  | [] => []
  | [part] => part
  | part :: rest => part ++ ',' :: commaSeparated rest

mutual

/-- The characters of a value. -/
def chars : Json → List Char
  | null => "null".toList
  | bool b => (if b then "true" else "false").toList
  | number n => n.text.toList
  | string s => quote s
  | array items => '[' :: (commaSeparated (itemChars items) ++ [']'])
  | object members => '\x7b' :: (commaSeparated (memberChars members) ++ ['\x7d'])

/-- The characters of each item of an array. -/
def itemChars : List Json → List (List Char)
  | [] => []
  | item :: rest => chars item :: itemChars rest

/-- The characters of each member of an object. -/
def memberChars : List (String × Json) → List (List Char)
  | [] => []
  | (key, value) :: rest => (quote key ++ ':' :: chars value) :: memberChars rest

end

/-- **The compact text** of a value. -/
def compact (v : Json) : String :=
  String.ofList v.chars

end MessageIntake.Json
