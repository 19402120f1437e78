/-!
# Polls

What is waited for is *polled*: it comes to a value, or it is pending and is polled again later. A
poll may look at a state and change it. In a race one thing is polled after the other, and the first
of them that comes to a value ends it.

Main statements: what a race comes to, its first part has come to, or its second part after the
first was pending (`race_eq_some_iff`, `race_eq_none_iff`).
-/

namespace MessageIntake

/-- **A poll** in a state: the value, if it comes to one, and the state afterwards. -/
abbrev Poll (σ α : Type) := σ → Option α × σ

namespace Poll

variable {σ τ α β : Type}

/-- A poll with its value seen through `f`. -/
def map (f : α → β) (p : Poll σ α) : Poll σ β := fun s => ((p s).1.map f, (p s).2)

/-- **A race**: the second is polled if the first is pending. -/
def race (first second : Poll σ α) : Poll σ α := fun s =>
  match first s with
  | (some a, s) => (some a, s)
  | (none, s) => second s

/-- A poll of a part of the state. -/
def within (get : σ → τ) (put : τ → σ → σ) (p : Poll τ α) : Poll σ α := fun s =>
  ((p (get s)).1, put (p (get s)).2 s)

variable {first second p : Poll σ α} {s s' : σ} {a : α}

theorem map_eq_some_iff {f : α → β} {b : β} :
    p.map f s = (some b, s') ↔ ∃ a, p s = (some a, s') ∧ f a = b := by
  simp only [map, Prod.ext_iff, Option.map_eq_some_iff]
  exact ⟨fun ⟨⟨a, found, same⟩, after⟩ => ⟨a, ⟨found, after⟩, same⟩,
    fun ⟨a, ⟨found, after⟩, same⟩ => ⟨⟨a, found, same⟩, after⟩⟩

theorem map_eq_none_iff {f : α → β} : p.map f s = (none, s') ↔ p s = (none, s') := by
  simp only [map, Prod.ext_iff, Option.map_eq_none_iff]

theorem within_eq_iff {get : σ → τ} {put : τ → σ → σ} {p : Poll τ α} {value : Option α} :
    p.within get put s = (value, s') ↔ ∃ t, p (get s) = (value, t) ∧ put t s = s' := by
  simp only [within, Prod.ext_iff]
  exact ⟨fun ⟨found, after⟩ => ⟨_, ⟨found, rfl⟩, after⟩, fun ⟨_, ⟨found, rfl⟩, after⟩ =>
    ⟨found, after⟩⟩

theorem race_eq_some_iff :
    first.race second s = (some a, s') ↔
      first s = (some a, s') ∨ ∃ mid, first s = (none, mid) ∧ second mid = (some a, s') := by
  unfold race
  split
  · next found => simp [found]
  · next pending => simp [pending]

theorem race_eq_none_iff :
    first.race second s = (none, s') ↔
      ∃ mid, first s = (none, mid) ∧ second mid = (none, s') := by
  unfold race
  split
  · next found => simp [found]
  · next pending => simp [pending]

end Poll

end MessageIntake
