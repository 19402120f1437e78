import MessageIntake.Text.Blank
/-!
# Log formats

How log lines are written: for people, or one JSON object a line.
-/

namespace MessageIntake.Settings

/-- **A log format.** -/
inductive LogFormat where
  | pretty
  | json
  deriving DecidableEq, Repr

namespace LogFormat

/-- No log format has this name. -/
structure Unknown where
  name : String
  deriving DecidableEq, Repr

/-- The wording of it. -/
def Unknown.message (u : Unknown) : String :=
  "unknown log format '" ++ u.name ++ "', expected pretty or json"

/-- A name as it is compared: without white space around it, and in small ASCII letters. -/
def normalize (s : String) : String := String.ofList ((Text.trim s).toList.map Char.toLower)

/-- **The log format of a name.** -/
def ofText? (s : String) : Except Unknown LogFormat :=
  match normalize s with
  | "pretty" => .ok .pretty
  | "text" => .ok .pretty
  | "json" => .ok .json
  | other => .error ⟨other⟩

end LogFormat

end MessageIntake.Settings
