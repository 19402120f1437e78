import MessageIntake.Proofs.Json.Values
/-!
# Objects by their entries

An object writes *entries*: a key and a value each, in an order, and perhaps several with one key.
Which entries stand in its text is told before they are put in order and the last of each key is
taken, so that it can be said of a text that no key stands in it twice.

Main statements: an object that is read is made of the entries that its text writes
(`read_eq_object_iff`), and an object that is written writes its members, in their order
(`writes_compact`).
-/

namespace MessageIntake.Json

open Utf8 (bytesOf)

/-- **The bytes write an object** with these entries, in their order, and nothing else. -/
def Writes (bytes : Bytes) (entries : List (String × Json)) : Prop :=
  ∃ rest after, skipSpace bytes = 0x7b :: rest ∧
    members (value (depthLimit - 1)) rest = .ok (entries, after) ∧ skipSpace after = []

theorem map_ne_object {α : Type} {make : α → Json} (other : ∀ a ms, make a ≠ .object ms)
    {reading : Reading α} {ms : Members} {rest : Bytes} :
    (reading.map fun (a, rest) => (make a, rest)) ≠ .ok (.object ms, rest) := by
  intro read
  cases reading with
  | error => cases read
  | ok result =>
    obtain ⟨a, rest⟩ := result
    exact other a ms (congrArg Prod.fst (Except.ok.inj read))

theorem word_ne_object {v : Json} (other : ∀ ms, v ≠ .object ms) {ws : List UInt8} {bytes : Bytes}
    {ms : Members} {rest : Bytes} : word v ws bytes ≠ .ok (.object ms, rest) := by
  induction ws generalizing bytes with
  | nil => exact fun read => other ms (congrArg Prod.fst (Except.ok.inj read))
  | cons w ws ih =>
    cases bytes with
    | nil =>
      intro read
      cases read
    | cons b bytes =>
      unfold word
      split
      · exact ih
      · intro read
        cases read

/-- **An object opens** with its brace. -/
theorem exists_brace_of_value {depth : Nat} {bytes : Bytes} {ms : Members} {rest : Bytes}
    (read : value depth bytes = .ok (.object ms, rest)) :
    ∃ tail, skipSpace bytes = 0x7b :: tail := by
  unfold value at read
  split at read
  · cases read
  · next b tail starts =>
    split at read
    · exact absurd read (word_ne_object (by simp))
    split at read
    · exact absurd read (word_ne_object (by simp))
    split at read
    · exact absurd read (word_ne_object (by simp))
    split at read
    · exact absurd read (map_ne_object (by simp))
    split at read
    · exact absurd read (map_ne_object (by simp))
    split at read
    · exact absurd read (map_ne_object (by simp))
    split at read
    · split at read
      · cases read
      · exact absurd read (map_ne_object (by simp))
    split at read
    · next brace => exact ⟨tail, by rw [starts, beq_iff_eq.1 brace]⟩
    · cases read

/-- **An object that is read** is that of the entries that the bytes write. -/
theorem read_eq_object_iff {bytes : Bytes} {ms : Members} :
    read bytes = .ok (.object ms) ↔
      ∃ entries, Writes bytes entries ∧ ms = Members.ofList entries := by
  have depth : depthLimit = depthLimit - 1 + 1 := rfl
  constructor
  · intro ok
    unfold read at ok
    split at ok
    · cases ok
    · next v after eq =>
      split at ok
      · next ends =>
        cases ok
        obtain ⟨rest, starts⟩ := exists_brace_of_value eq
        rw [depth, value_brace starts] at eq
        cases entries_eq : members (value (depthLimit - 1)) rest with
        | error =>
          rw [entries_eq] at eq
          cases eq
        | ok result =>
          rw [entries_eq] at eq
          cases eq
          exact ⟨result.1, ⟨rest, _, starts, entries_eq, ends⟩, rfl⟩
      · cases ok
  · rintro ⟨entries, ⟨rest, after, starts, reads, ends⟩, rfl⟩
    have value_eq : value depthLimit bytes = .ok (ofEntries entries, after) := by
      rw [depth, value_brace starts, reads]
      rfl
    simp only [read, value_eq, ends]
    rfl

theorem ofBytes?_eq_ok_iff {bytes : Bytes} {v : Json} :
    ofBytes? bytes = .ok v ↔ read bytes = .ok v := by
  unfold ofBytes?
  cases read bytes with
  | ok w => simp only [Except.ok.injEq]
  | error fault => simp only [reduceCtorEq]

/-- **The values of what is written** fit the depth below the object. -/
theorem Writes.fits {bytes : Bytes} {entries : List (String × Json)} (h : Writes bytes entries) :
    ∀ m ∈ entries, Fits (depthLimit - 1) m.2 := by
  obtain ⟨rest, after, -, reads, -⟩ := h
  exact forall_of_members fits_of_value reads

/-- **The text of an object** writes its members, in their order. -/
theorem writes_compact {ms : List (String × Json)} (fits : ∀ m ∈ ms, Fits (depthLimit - 1) m.2) :
    Writes (Utf8.encode (object ms).compact) (ms.map fun m => (m.1, m.2.mapFloats reread)) := by
  have written : Utf8.encode (object ms).compact =
      0x7b :: (bytesOf (commaSeparated (memberChars ms)) ++ 0x7d :: []) := by
    rw [compact, Utf8.encode_ofList, chars, Utf8.bytesOf_cons, Utf8.bytesOf_append]
    rfl
  exact ⟨_, [], by rw [written]; rfl,
    members_written (fun m mem => value_chars (fits m mem)) [], rfl⟩

end MessageIntake.Json
