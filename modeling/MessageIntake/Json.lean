import MessageIntake.Binary64
/-!
# JSON values

The value that a payload holds. Whole numbers of 64 bits stay whole, every other number is
a binary64 value. The members of an object are kept in the byte order of their keys, each
key once: of two members with one key the later stands.
-/

namespace MessageIntake

/-- A number as a payload writes it. -/
inductive Json.Number where
  | integer (n : Int)
  | float (x : Binary64)
  deriving DecidableEq, Repr

/-- **A JSON value.** -/
inductive Json where
  | null
  | bool (b : Bool)
  | number (n : Json.Number)
  | string (s : String)
  | array (items : List Json)
  | object (members : List (String × Json))
  deriving Inhabited

namespace Json

/-- The members of an object, sorted by key. -/
abbrev Members := List (String × Json)

namespace Members

/-- Puts a member in its place; an older member with the same key gives way. -/
def insert (key : String) (value : Json) : Members → Members
  | [] => [(key, value)]
  | (k, v) :: rest =>
    if key < k then (key, value) :: (k, v) :: rest
    else if key == k then (key, value) :: rest
    else (k, v) :: insert key value rest

/-- The members of a list in which later entries replace earlier ones. -/
def ofList (entries : List (String × Json)) : Members :=
  entries.foldl (fun members entry => members.insert entry.1 entry.2) []

/-- The value under a key. -/
def find? (members : Members) (key : String) : Option Json :=
  members.lookup key

@[simp] theorem find?_insert_self (members : Members) (key : String) (value : Json) :
    (members.insert key value).find? key = some value := by
  induction members with
  | nil => simp [insert, find?]
  | cons member rest ih =>
    obtain ⟨k, v⟩ := member
    unfold insert
    split
    · simp [find?]
    · split
      · simp [find?]
      · rename_i hk
        rw [Bool.not_eq_true] at hk
        simpa [find?, List.lookup_cons, hk] using ih

/-- A member that is put in its place leaves the other keys alone. -/
theorem find?_insert_of_ne (members : Members) {key other : String} (h : other ≠ key)
    (value : Json) : (members.insert key value).find? other = members.find? other := by
  have hb : (other == key) = false := by simp [h]
  induction members with
  | nil => simp [insert, find?, List.lookup_cons, hb]
  | cons member rest ih =>
    obtain ⟨k, v⟩ := member
    unfold insert
    split
    · simp [find?, List.lookup_cons, hb]
    · split
      · rename_i hk
        rw [beq_iff_eq] at hk
        subst hk
        simp [find?, List.lookup_cons, hb]
      · cases ho : other == k <;> simp_all [find?, List.lookup_cons]

/-- The members whose keys are not among `keys`. -/
def without (members : Members) (keys : List String) : Members :=
  members.filter fun entry => !keys.contains entry.1

/-- The keys in order. -/
def keys (members : Members) : List String :=
  members.map (·.1)

theorem mem_without {members : Members} {names : List String} {entry : String × Json} :
    entry ∈ members.without names ↔ entry ∈ members ∧ entry.1 ∉ names := by
  simp [without]

end Members

/-- The name of a value's kind. -/
def kind : Json → String
  | null => "null"
  | bool _ => "boolean"
  | number _ => "number"
  | string _ => "string"
  | array _ => "array"
  | object _ => "object"

/-- The object with the given entries, later ones replacing earlier ones. -/
def ofEntries (entries : List (String × Json)) : Json :=
  .object (Members.ofList entries)

/-- A whole number. -/
def ofNat (n : Nat) : Json := .number (.integer n)

/-- A whole number. -/
def ofInt (n : Int) : Json := .number (.integer n)

/-- A text, or null where there is none. -/
def ofText? : Option String → Json
  | none => .null
  | some s => .string s

end Json

end MessageIntake
