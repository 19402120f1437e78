import MessageIntake.Binary64.Reading
import MessageIntake.Text.Blank
import MessageIntake.Text.Quoted
import MessageIntake.Text.Utf8
/-!
# The environment and its values

Settings are read from variables, each of which holds bytes. A variable whose bytes are no
UTF-8 counts as not set. A value is read in one of three ways: leniently, where anything
that cannot be read gives way to the default; strictly, where only a variable that is not
set or blank does; or it is required.
-/

namespace MessageIntake.Settings

/-- **An environment**: the bytes that each variable holds. -/
structure Environment where
  entries : List (String × Bytes)

namespace Environment

/-- The environment without variables. -/
def empty : Environment := ⟨[]⟩

/-- **The text of a variable.** -/
def text? (env : Environment) (key : String) : Option String :=
  (env.entries.find? (·.1 == key)).bind fun entry => (Utf8.decode? entry.2).toOption

/-- **What a name stands for.** A variable is looked up as the text `key=value`: a name
stands for what follows it and an equals sign at the start of that text, so that a name with
an equals sign of its own reaches into the value. -/
def resolve? (env : Environment) (name : String) : Option String :=
  match name.toList.dropWhile (· != '=') with
  | [] => env.text? name
  | _ :: start =>
    (env.text? (String.ofList (name.toList.takeWhile (· != '=')))).bind fun value =>
      ((start ++ ['=']).isPrefixOf? value.toList).map String.ofList

/-- A name without an equals sign stands for the text of its variable. -/
theorem resolve?_eq_text? (env : Environment) {name : String} (h : '=' ∉ name.toList) :
    env.resolve? name = env.text? name := by
  have none_left : name.toList.dropWhile (· != '=') = [] := by
    rw [Text.dropWhile_eq_nil_iff_all, List.all_eq_true]
    intro c hc
    simpa using fun heq : c = '=' => h (heq ▸ hc)
  simp [resolve?, none_left]

/-- The environment with a variable set. -/
def set (env : Environment) (key value : String) : Environment :=
  ⟨(key, Utf8.encode value) :: env.entries.filter (·.1 != key)⟩

example : (empty.set "A" "b=c=d").resolve? "A=b" = some "c=d" ∧
    (empty.set "A" "b=c=d").resolve? "A=c" = none := by decide +kernel

end Environment

/-! ### Values -/

/-- **How a value is read** from its text. -/
abbrev Reading (α : Type) := String → Option α

namespace Reading

/-- Any text. -/
def text : Reading String := some

/-- The digits of a number, at least one. -/
def digits? (cs : List Char) : Option Nat :=
  if !cs.isEmpty && cs.all Char.isDigit then some (Binary64.digitsValue cs) else none

/-- **A whole number** from zero to `limit`; it may carry a plus sign. -/
def natUpTo (limit : Nat) : Reading Nat := fun s =>
  let digits :=
    match s.toList with
    | '+' :: rest => digits? rest
    | cs => digits? cs
  digits.filter (· ≤ limit)

/-- **A whole number** between two bounds; it may carry a sign. -/
def intWithin (low high : Int) : Reading Int := fun s =>
  let value : Option Int :=
    match s.toList with
    | '+' :: rest => (digits? rest).map fun (n : Nat) => (n : Int)
    | '-' :: rest => (digits? rest).map fun (n : Nat) => -(n : Int)
    | cs => (digits? cs).map fun (n : Nat) => (n : Int)
  value.filter fun n => low ≤ n && n ≤ high

/-- A number of 16 bits. -/
def word16 : Reading Nat := natUpTo 0xFFFF

/-- A number of 32 bits. -/
def word32 : Reading Nat := natUpTo 0xFFFFFFFF

/-- A number of 64 bits. -/
def word64 : Reading Nat := natUpTo 0xFFFFFFFFFFFFFFFF

/-- A number of 32 bits with a sign. -/
def signed32 : Reading Int := intWithin (-0x80000000) 0x7FFFFFFF

/-- `true` or `false`. -/
def truth : Reading Bool
  | "true" => some true
  | "false" => some false
  | _ => none

/-- A binary64 value. -/
def float : Reading Binary64 := Binary64.ofText?

end Reading

/-- **What is wrong with a variable.** -/
inductive VariableFault where
  /-- It has to be set and is not. -/
  | absent (key : String)
  /-- It has to be set, and what it holds cannot be read. -/
  | unreadable (key : String)
  /-- It need not be set, and what it holds cannot be read. -/
  | invalid (key raw : String)
  deriving DecidableEq, Repr

/-- The wording of a fault. -/
def VariableFault.message : VariableFault → String
  | absent key => "Environment variable " ++ key ++ " not found"
  | unreadable key => "Failed to parse environment variable " ++ key
  | invalid key raw =>
    "Failed to parse environment variable " ++ key ++ "=" ++ Text.quoted raw

namespace Environment

variable {α : Type}

/-- **A lenient value.** -/
def lenient (env : Environment) (read : Reading α) (key : String) (default : α) : α :=
  ((env.text? key).bind read).getD default

/-- **A strict value**; white space around it does not count. -/
def strict (env : Environment) (read : Reading α) (key : String) (default : α) :
    Except VariableFault α :=
  match env.text? key with
  | none => .ok default
  | some raw =>
    if Text.allBlank raw then .ok default
    else
      match read (Text.trim raw) with
      | some value => .ok value
      | none => .error (.invalid key raw)

/-- **A required value.** -/
def required (env : Environment) (read : Reading α) (key : String) :
    Except VariableFault α :=
  match env.text? key with
  | none => .error (.absent key)
  | some raw =>
    match read raw with
    | some value => .ok value
    | none => .error (.unreadable key)

/-- A text, of which a blank one is as good as none. -/
def textOr (env : Environment) (key default : String) : String :=
  ((env.text? key).filter fun s => !Text.allBlank s).getD default

end Environment

end MessageIntake.Settings
