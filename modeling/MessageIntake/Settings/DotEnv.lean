import MessageIntake.Settings.Environment
import MessageIntake.Text.Alphanumeric
/-!
# Files of variables

A file gives variables line by line: `KEY=value`, with `export` before the key if wanted.
A value may be quoted, so that it goes on over the ends of lines, and may take up the values
of other variables after a dollar sign. A mark `#` starts a comment at the start of a line
and after white space. A variable that is set already keeps its value, and the first line
that cannot be read ends the file.

Main entry: `Environment.withFile`.
-/

namespace MessageIntake.Settings.DotEnv

open Text (isBlank isAlphanumeric)

/-! ### Lines -/

/-- Where a reader of lines is. -/
inductive LineMode where
  | plain
  /-- After white space, where a comment may start. -/
  | blank
  | escaped
  | strong
  | strongEscaped
  | weak
  | weakEscaped
  deriving DecidableEq, Repr

/-- The mode outside quotes after a character. -/
def LineMode.start (c : Char) : LineMode :=
  match c with
  | '\\' => .escaped
  | '\x22' => .weak
  | '\x27' => .strong
  | _ => .plain

/-- **The mode after a character.** A second white space ends the place where a comment may
start. -/
def LineMode.after : LineMode → Char → LineMode
  | .plain, c => if isBlank c && c != '\n' && c != '\r' then .blank else .start c
  | .blank, c => .start c
  | .escaped, _ => .plain
  | .weak, c => if c == '\\' then .weakEscaped else if c == '\x22' then .plain else .weak
  | .weakEscaped, _ => .weak
  | .strong, c => if c == '\\' then .strongEscaped else if c == '\x27' then .plain else .strong
  | .strongEscaped, _ => .strong

/-- **The lines of a file**; `seen` holds what was read of the current one, last first, and
nothing stands for a line that the file ends in the middle of. -/
def linesFrom : Option LineMode → List Char → List Char → List (Option (List Char))
  | none, seen, [] => [some seen.reverse]
  | some mode, seen, [] => [if mode = .plain then some seen.reverse else none]
  | none, seen, c :: rest =>
    if c = '\n' then some seen.reverse :: linesFrom (some .plain) [] rest
    else linesFrom none seen rest
  | some mode, seen, c :: rest =>
    if c = '#' && seen.all isBlank then linesFrom none [] rest
    else if c = '#' && mode = .blank then linesFrom none seen rest
    else if c = '\n' && mode.after c = .plain then
      some seen.reverse :: linesFrom (some .plain) [] rest
    else linesFrom (some (mode.after c)) (c :: seen) rest

/-- The lines of a file. -/
def lines (file : List Char) : List (Option (List Char)) := linesFrom (some .plain) [] file

/-! ### Values -/

/-- What a dollar sign followed by a name stands for. -/
abbrev Lookup := String → String

/-- Where a reader of values is. -/
inductive ValueMode where
  | plain
  | weak
  | strong
  | escaped (inWeak : Bool)
  /-- After a dollar sign, with the name read so far, last character first. -/
  | name (inWeak : Bool) (read : List Char)
  /-- After a dollar sign and a brace. -/
  | braced (inWeak : Bool) (read : List Char)
  /-- After white space: only a comment may come. -/
  | ended
  deriving DecidableEq, Repr

/-- Outside names and escapes, inside weak quotes or not. -/
def ValueMode.back (inWeak : Bool) : ValueMode := if inWeak then .weak else .plain

/-- What the name that was read stands for, last character first. -/
def resolved (lookup : Lookup) (read : List Char) : List Char :=
  (lookup (String.ofList read.reverse)).toList.reverse

/-- What an escape stands for. -/
def unescape? (c : Char) : Option Char :=
  if c = 'n' then some '\n'
  else if ['\\', '\x27', '\x22', '$', ' '].contains c then some c
  else none

/-- **Reading a value**; `out` holds the value so far, last character first. -/
def valueFrom (lookup : Lookup) : ValueMode → List Char → List Char → Option (List Char)
  | .plain, out, [] => some out.reverse
  | .ended, out, [] => some out.reverse
  | .escaped inWeak, out, [] => if inWeak then none else some out.reverse
  | .name inWeak read, out, [] =>
    if inWeak then none else some (resolved lookup read ++ out).reverse
  | .weak, _, [] => none
  | .strong, _, [] => none
  | .braced .., _, [] => none
  | .ended, out, c :: rest =>
    if c = ' ' || c = '\t' then valueFrom lookup .ended out rest
    else if c = '#' then some out.reverse
    else none
  | .escaped inWeak, out, c :: rest =>
    match unescape? c with
    | some c => valueFrom lookup (.back inWeak) (c :: out) rest
    | none => none
  | .strong, out, c :: rest =>
    if c = '\x27' then valueFrom lookup .plain out rest
    else valueFrom lookup .strong (c :: out) rest
  | .name inWeak read, out, c :: rest =>
    if isAlphanumeric c then valueFrom lookup (.name inWeak (c :: read)) out rest
    else if c = '\x7b' && read.isEmpty then valueFrom lookup (.braced inWeak []) out rest
    else
      let out := resolved lookup read ++ out
      if c = '$' then valueFrom lookup (.name inWeak []) out rest
      else valueFrom lookup (.back inWeak) (c :: out) rest
  | .braced inWeak read, out, c :: rest =>
    if c = '\x7d' then valueFrom lookup (.back inWeak) (resolved lookup read ++ out) rest
    else valueFrom lookup (.braced inWeak (c :: read)) out rest
  | .weak, out, c :: rest =>
    if c = '$' then valueFrom lookup (.name true []) out rest
    else if c = '\x22' then valueFrom lookup .plain out rest
    else if c = '\\' then valueFrom lookup (.escaped true) out rest
    else valueFrom lookup .weak (c :: out) rest
  | .plain, out, c :: rest =>
    if c = '$' then valueFrom lookup (.name false []) out rest
    else if c = '\x27' then valueFrom lookup .strong out rest
    else if c = '\x22' then valueFrom lookup .weak out rest
    else if c = '\\' then valueFrom lookup (.escaped false) out rest
    else if c = ' ' || c = '\t' then valueFrom lookup .ended out rest
    else valueFrom lookup .plain (c :: out) rest

/-! ### Entries -/

/-- What a line says. -/
inductive Entry where
  /-- Nothing: it is empty or a comment. -/
  | nothing
  | variable (key value : String)
  | malformed

/-- The character may start a key. -/
def startsKey (c : Char) : Bool := c.isAlpha || c == '_'

/-- The character may follow in a key. -/
def continuesKey (c : Char) : Bool := c.isAlphanum || c == '_' || c == '.'

/-- A key at the start of a line, and what comes after it and after white space. -/
def key? (line : List Char) : Option (List Char × List Char) :=
  match line with
  | [] => none
  | c :: _ =>
    if startsKey c then
      some (line.takeWhile continuesKey, (line.dropWhile continuesKey).dropWhile isBlank)
    else none

/-- A key, an equals sign, and what comes after it and after white space. -/
def keyEquals? (line : List Char) : Option (List Char × List Char) :=
  match key? line with
  | some (key, '=' :: rest) => some (key, rest.dropWhile isBlank)
  | _ => none

/-- The word that may stand before a key. -/
def exportWord : List Char := "export".toList

/-- The key of a line and what comes after the equals sign. The word `export` is a key of
its own if an equals sign follows. -/
def assignment? (line : List Char) : Option (List Char × List Char) :=
  match keyEquals? line with
  | some found => some found
  | none =>
    match key? line with
    | some (key, rest) => if key = exportWord then keyEquals? rest else none
    | none => none

/-- There is nothing more on a line but a comment. -/
def isOver (line : List Char) : Bool := line.isEmpty || line.head? == some '#'

/-- **What a line says.** -/
def Entry.ofLine (lookup : Lookup) (line : List Char) : Entry :=
  let line := (Text.dropBlankEnd line).dropWhile isBlank
  if isOver line then .nothing
  else
    match assignment? line with
    | none => .malformed
    | some (key, rest) =>
      if isOver rest then .variable (String.ofList key) ""
      else
        match valueFrom lookup .plain [] rest with
        | some value => .variable (String.ofList key) (String.ofList value)
        | none => .malformed

/-! ### Taking up a file -/

/-- What the names stand for while a file is read: what is set, else what the file said
before, else nothing. -/
def lookupIn (env : Environment) (said : List (String × String)) : Lookup := fun name =>
  ((env.resolve? name).or (said.lookup name)).getD ""

/-- The environment after the lines of a file; `said` is what its lines said so far, the
latest first. -/
def takeUp (env : Environment) (said : List (String × String)) :
    List (Option (List Char)) → Environment
  | [] => env
  | none :: _ => env
  | some line :: rest =>
    match Entry.ofLine (lookupIn env said) line with
    | .nothing => takeUp env said rest
    | .malformed => env
    | .variable key value =>
      let env := if (env.text? key).isSome then env else env.set key value
      takeUp env ((key, value) :: said) rest

/-- The file without the mark of its encoding. -/
def withoutMark (file : List Char) : List Char :=
  match file with
  | '\ufeff' :: rest => rest
  | file => file

end MessageIntake.Settings.DotEnv

namespace MessageIntake.Settings

/-- **The environment after a file** of variables. -/
def Environment.withFile (env : Environment) (file : String) : Environment :=
  DotEnv.takeUp env [] (DotEnv.lines (DotEnv.withoutMark file.toList))

end MessageIntake.Settings
