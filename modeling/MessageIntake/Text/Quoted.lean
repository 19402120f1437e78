import MessageIntake.Text.Graphic
/-!
# Quoted text

A text as an error message shows it: in double quotes, with a backslash before quotes and
backslashes, short marks for the common controls, and the code point in hexadecimal for any
other character that is not graphic.
-/

namespace MessageIntake.Text

/-- The code point of a character as it is written out. -/
def codePoint (c : Char) : List Char :=
  ['\\', 'u', '\x7b'] ++ Nat.toDigits 16 c.toNat ++ ['\x7d']

/-- A character inside quotes. -/
def escape (c : Char) : List Char :=
  match c with
  | '\x22' => ['\\', '\x22']
  | '\\' => ['\\', '\\']
  | '\n' => ['\\', 'n']
  | '\r' => ['\\', 'r']
  | '\t' => ['\\', 't']
  | '\x00' => ['\\', '0']
  | c => if isGraphic c then [c] else codePoint c

/-- **A text in quotes.** -/
def quoted (s : String) : String :=
  String.ofList (['\x22'] ++ s.toList.flatMap escape ++ ['\x22'])

example : escape 'é' = ['é'] ∧ escape '\u0301' = ['\\', 'u', '\x7b', '3', '0', '1', '\x7d'] := by
  decide +kernel

end MessageIntake.Text
