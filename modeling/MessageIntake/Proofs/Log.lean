import Mathlib.Algebra.BigOperators.Group.Finset.Piecewise
import MessageIntake.Proofs.Gathering
import MessageIntake.Proofs.Passage
/-!
# Logs

A *move* is an event of a dialogue without the state of its surroundings. After some moves of a
dialogue something is left of it (`Dialogue.Leaves`); where nothing is left but the value, the
moves are a passage through it in a world that may answer anything.

A log lists the moves of a gathering with who made them, the oldest first. Nothing in a gathering
keeps one, but there is one for each of its moments, and proofs read off it what the participants
have done and what their surroundings have gone through. Surroundings may keep the log themselves
(`Setting.logging`), so that their answers can hang on all that has happened.

Main statements: every moment of a run has a log that tells how far everybody has come and in which
everything is recorded that each move preserves (`Setting.Reachable.exists_log`); what is counted
in a log is the sum of what is counted for each participant (`Log.count_moves`); what has been read
of a dialogue from its start is read of what is left of it (`Dialogue.Leaves.reading`).
-/

namespace MessageIntake

namespace Dialogue

variable {I : Interface} {ν α β : Type}

/-- A move of a dialogue. -/
abbrev Move (I : Interface) (ν : Type) := Event I ν Unit

/-- The world that may answer anything, and has no state. -/
def anything : World I Unit := fun _ _ _ _ => True

/-- **What is left of a dialogue** after some of its moves, the oldest first. -/
inductive Leaves : Dialogue I ν α → List (Move I ν) → Dialogue I ν α → Prop
  | none {d : Dialogue I ν α} : Leaves d [] d
  | tell {note : ν} {rest left : Dialogue I ν α} {moves : List (Move I ν)}
      (h : Leaves rest moves left) : Leaves (.tell note rest) (.told note :: moves) left
  | ask {question : I.Question} {rest : I.Answer question → Dialogue I ν α}
      {answer : I.Answer question} {left : Dialogue I ν α} {moves : List (Move I ν)}
      (h : Leaves (rest answer) moves left) :
      Leaves (.ask question rest) (.answered question answer () :: moves) left

variable {d left : Dialogue I ν α} {moves : List (Move I ν)}

/-- One note more is told. -/
theorem Leaves.told {note : ν} {rest : Dialogue I ν α} (h : Leaves d moves (.tell note rest)) :
    Leaves d (moves ++ [.told note]) rest := by
  generalize eq : Dialogue.tell note rest = left at h
  induction h with
  | none =>
    subst eq
    exact .tell .none
  | tell _ ih => exact .tell (ih eq)
  | ask _ ih => exact .ask (ih eq)

/-- One question more is answered. -/
theorem Leaves.answered {question : I.Question} {rest : I.Answer question → Dialogue I ν α}
    (h : Leaves d moves (.ask question rest)) (answer : I.Answer question) :
    Leaves d (moves ++ [.answered question answer ()]) (rest answer) := by
  generalize eq : Dialogue.ask question rest = left at h
  induction h with
  | none =>
    subst eq
    exact .ask .none
  | tell _ ih => exact .tell (ih eq)
  | ask _ ih => exact .ask (ih eq)

/-- **Where only a value is left**, the moves are a passage. -/
theorem Leaves.passage {value : α} (h : Leaves d moves (.done value)) :
    Passage anything d () moves value () := by
  generalize eq : Dialogue.done value = left at h
  induction h with
  | none =>
    subst eq
    exact .done
  | tell _ ih => exact .tell (ih eq)
  | ask _ ih => exact .ask (s := ()) trivial (ih eq)

/-- **What is left of a sequence** is something of its first part and then the second, or
something of the second. -/
theorem Leaves.of_bind {f : α → Dialogue I ν β} {left : Dialogue I ν β}
    (h : Leaves (d.bind f) moves left) :
    (∃ mid, Leaves d moves mid ∧ (∀ value, mid ≠ .done value) ∧ left = mid.bind f) ∨
      ∃ first later value, moves = first ++ later ∧ Leaves d first (.done value) ∧
        Leaves (f value) later left := by
  induction d generalizing moves with
  | done value => exact .inr ⟨[], moves, value, rfl, .none, h⟩
  | tell note rest ih =>
    cases h with
    | none => exact .inl ⟨_, .none, nofun, rfl⟩
    | tell h =>
      rcases ih h with ⟨mid, part, further, rfl⟩ | ⟨first, later, value, rfl, one, two⟩
      · exact .inl ⟨mid, .tell part, further, rfl⟩
      · exact .inr ⟨_, later, value, rfl, .tell one, two⟩
  | ask question rest ih =>
    cases h with
    | none => exact .inl ⟨_, .none, nofun, rfl⟩
    | ask h =>
      rcases ih _ h with ⟨mid, part, further, rfl⟩ | ⟨first, later, value, rfl, one, two⟩
      · exact .inl ⟨mid, .ask part, further, rfl⟩
      · exact .inr ⟨_, later, value, rfl, .ask one, two⟩

/-- A sequence of which more is left than a value has not only a value left. -/
theorem bind_ne_done {f : α → Dialogue I ν β} (more : ∀ value, d ≠ .done value) (value : β) :
    d.bind f ≠ .done value := by
  cases d with
  | done v => exact absurd rfl (more v)
  | tell | ask => exact nofun

/-! ### Reading a dialogue against its own moves -/

/-- **A reading of moves**: `asks` says which questions may be asked after which moves, and `tells`
which notes may be told. -/
def reading (asks : List (Move I ν) → I.Question → Prop) (tells : ν → Prop) :
    Spec I ν (List (Move I ν)) where
  ask question wish moves :=
    asks moves question ∧ ∀ answer, wish answer (moves ++ [.answered question answer ()])
  tell note wish moves := tells note ∧ wish (moves ++ [.told note])
  ask_mono h _ hc := hc.imp_right fun wish answer => h answer _ (wish answer)
  tell_mono h _ hc := hc.imp_right (h _)

/-- **Where a dialogue has been read**, what is left of it after some moves has been read as well,
and only such notes were told as may be. -/
theorem Leaves.reading {asks : List (Move I ν) → I.Question → Prop} {tells : ν → Prop}
    {post : α → List (Move I ν) → Prop} (l : Leaves d moves left) {before : List (Move I ν)}
    (h : d.wp (Dialogue.reading asks tells) post before) :
    left.wp (Dialogue.reading asks tells) post (before ++ moves) ∧
      ∀ note, .told note ∈ moves → tells note := by
  induction l generalizing before with
  | none =>
    rw [List.append_nil]
    exact ⟨h, by simp⟩
  | @tell note rest left moves _ ih =>
    obtain ⟨may, rest⟩ := h
    obtain ⟨later, told⟩ := ih rest
    refine ⟨by simpa using later, fun other mem => ?_⟩
    rcases List.mem_cons.1 mem with same | mem
    · cases same
      exact may
    · exact told other mem
  | @ask question rest answer left moves _ ih =>
    obtain ⟨later, told⟩ := ih (h.2 answer)
    exact ⟨by simpa using later, fun other mem => told other (by simpa using mem)⟩

end Dialogue

open Dialogue (Move Leaves)

variable {ι : Type} {I : Interface} {ν α σ : Type}

/-- **A count** of moves goes part by part. -/
structure Counts (count : List (Move I ν) → Nat) : Prop where
  nil : count [] = 0
  append : ∀ moves later, count (moves ++ later) = count moves + count later

/-- The sum of two counts is a count. -/
theorem Counts.add {count other : List (Move I ν) → Nat} (h : Counts count) (h' : Counts other) :
    Counts fun moves => count moves + other moves where
  nil := by simp only [h.nil, h'.nil]
  append moves later := by
    simp only [h.append, h'.append]
    omega

/-- **A log** of who made which move, the oldest first. -/
abbrev Log (ι : Type) (I : Interface) (ν : Type) := List (ι × Move I ν)

namespace Log

/-- The moves of all. -/
def moves (log : Log ι I ν) : List (Move I ν) := log.map (·.2)

@[simp] theorem moves_nil : moves ([] : Log ι I ν) = [] := rfl

@[simp] theorem moves_concat (log : Log ι I ν) (who : ι) (move : Move I ν) :
    moves (log ++ [(who, move)]) = log.moves ++ [move] := List.map_append

variable [DecidableEq ι]

/-- **The moves of one participant.** -/
def own (log : Log ι I ν) (who : ι) : List (Move I ν) := (log.filter (·.1 = who)).map (·.2)

theorem own_append (log later : Log ι I ν) (who : ι) :
    own (log ++ later) who = log.own who ++ later.own who := by
  simp [own]

/-- Of what one participant has done, the others have done nothing. -/
theorem own_map (actor who : ι) (moves : List (Move I ν)) :
    own (moves.map (Prod.mk actor)) who = if actor = who then moves else [] := by
  by_cases same : actor = who <;> simp [own, List.filter_map, Function.comp_def, same]

/-- **What is counted in a log** is the sum of what is counted for each participant. -/
theorem count_moves [Fintype ι] {count : List (Move I ν) → Nat} (counts : Counts count)
    (log : Log ι I ν) : count log.moves = ∑ who, count (log.own who) := by
  induction log with
  | nil => simp [moves, own, counts.nil]
  | cons entry log ih =>
    obtain ⟨actor, move⟩ := entry
    have each (who : ι) : count (own ((actor, move) :: log) who) =
        (if actor = who then count [move] else 0) + count (own log who) := by
      have parts := own_append [(actor, move)] log who
      rw [List.singleton_append] at parts
      rw [parts, counts.append]
      have one := own_map actor who [move]
      simp only [List.map_cons, List.map_nil] at one
      rw [one]
      split
      · rfl
      · rw [counts.nil]
    calc count (moves ((actor, move) :: log))
      _ = count [move] + count (moves log) := counts.append [move] _
      _ = ∑ who, (if actor = who then count [move] else 0) + ∑ who, count (own log who) := by
        rw [ih, Finset.sum_ite_eq, if_pos (Finset.mem_univ actor)]
      _ = ∑ who, count (own ((actor, move) :: log) who) := by
        rw [← Finset.sum_add_distrib, Finset.sum_congr rfl fun who _ => each who]

/-- So two counts that agree for each participant agree in the log. -/
theorem count_eq [Fintype ι] {count other : List (Move I ν) → Nat} (counts : Counts count)
    (others : Counts other) {log : Log ι I ν}
    (each : ∀ who, count (log.own who) = other (log.own who)) :
    count log.moves = other log.moves := by
  rw [count_moves counts, count_moves others, Finset.sum_congr rfl fun who _ => each who]

end Log

/-- How far a part has come by some moves. -/
def Progress.By (part : Dialogue I ν α) (moves : List (Move I ν)) : Progress I ν α → Prop
  | waiting => moves = []
  | talking rest => Leaves part moves rest
  | finished value => Leaves part moves (.done value)

namespace Setting

variable [DecidableEq ι] {S : Setting ι I ν α σ} {start : σ} {g g' : Gathering ι I ν α σ}
  {Kept : σ → Log ι I ν → Prop}

/-- **A step is a move or none.** -/
theorem Step.exists_moves {who : ι} (step : S.Step who g g')
    (answers : ∀ who question s answer s' log, S.answers who question s answer s' →
      Kept s log → Kept s' (log ++ [(who, .answered question answer ())]))
    (hears : ∀ who note s log, Kept s log →
      Kept (S.hears who note s) (log ++ [(who, .told note)])) :
    ∃ moves : List (Move I ν),
      (∀ log, Kept g.affairs.state log →
        Kept g'.affairs.state (log ++ moves.map (Prod.mk who))) ∧
      ∀ before, (g.progress who).By (S.part who) before →
        (g'.progress who).By (S.part who) (before ++ moves) := by
  cases step with
  | begin waits =>
    refine ⟨[], fun log kept => ?_, fun before come => ?_⟩
    · rwa [List.map_nil, List.append_nil]
    · dsimp only at come ⊢
      rw [waits] at come
      have nothing : before = [] := come
      rw [Function.update_self, nothing]
      exact .none
  | @tell _ _ note _ talks =>
    refine ⟨[.told note], fun log kept => hears _ _ _ _ kept, fun before come => ?_⟩
    dsimp only at come ⊢
    rw [talks] at come
    rw [Function.update_self]
    exact Leaves.told come
  | @ask _ _ question _ answer _ talks asked =>
    refine ⟨[.answered question answer ()], fun log kept => answers _ _ _ _ _ _ asked kept,
      fun before come => ?_⟩
    dsimp only at come ⊢
    rw [talks] at come
    rw [Function.update_self]
    exact Leaves.answered come answer
  | finish talks =>
    refine ⟨[], fun log kept => ?_, fun before come => ?_⟩
    · rwa [List.map_nil, List.append_nil]
    · dsimp only at come ⊢
      rw [talks] at come
      rw [Function.update_self, List.append_nil]
      exact come

/-- **Every moment has a log**: it tells how far everybody has come, and whatever of the state and
the log each move preserves holds of it. -/
theorem Reachable.exists_log (h : S.Reachable start g) (Kept : σ → Log ι I ν → Prop)
    (opening : Kept start [])
    (answers : ∀ who question s answer s' log, S.answers who question s answer s' →
      Kept s log → Kept s' (log ++ [(who, .answered question answer ())]))
    (hears : ∀ who note s log, Kept s log →
      Kept (S.hears who note s) (log ++ [(who, .told note)])) :
    ∃ log : Log ι I ν, Kept g.affairs.state log ∧
      ∀ who, (g.progress who).By (S.part who) (log.own who) := by
  induction h with
  | refl => exact ⟨[], opening, fun _ => rfl⟩
  | tail _ step ih =>
    obtain ⟨actor, step⟩ := step
    obtain ⟨log, kept, come⟩ := ih
    obtain ⟨moves, keeps, comes⟩ := step.exists_moves answers hears
    refine ⟨log ++ moves.map (Prod.mk actor), keeps log kept, fun who => ?_⟩
    rw [Log.own_append, Log.own_map]
    by_cases same : actor = who
    · subst same
      rw [if_pos rfl]
      exact comes _ (come actor)
    · rw [if_neg same, List.append_nil, step.progress_of_ne (Ne.symm same)]
      exact come who

/-! ### Surroundings that keep a log -/

/-- **What surroundings have** that keep a log. -/
structure Logged (ι : Type) (I : Interface) (ν σ : Type) where
  world : σ
  log : Log ι I ν

/-- **Surroundings that keep a log** of all moves, and answer as a world does for which this is no
secret. -/
def logging (part : ι → Dialogue I ν α) (W : ι → World I (Logged ι I ν σ)) :
    Setting ι I ν α (Logged ι I ν σ) where
  part
  answers who question s answer s' :=
    W who question s answer s' ∧ s'.log = s.log ++ [(who, .answered question answer ())]
  hears who note s := { s with log := s.log ++ [(who, .told note)] }

/-- **The log that is kept** tells how far everybody has come. -/
theorem Reachable.kept_log {part : ι → Dialogue I ν α} {W : ι → World I (Logged ι I ν σ)}
    {world : σ} {g : Gathering ι I ν α (Logged ι I ν σ)}
    (h : (logging part W).Reachable ⟨world, []⟩ g) (who : ι) :
    (g.progress who).By (part who) (g.affairs.state.log.own who) := by
  obtain ⟨log, rfl, come⟩ := h.exists_log (fun s log => s.log = log) rfl
    (fun _ _ _ _ _ _ answered kept => kept ▸ answered.2) (fun _ _ _ _ kept => kept ▸ rfl)
  exact come who

end Setting

end MessageIntake
