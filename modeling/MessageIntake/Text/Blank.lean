/-!
# Blank text

Which characters count as blank, and trimming by them. A field is *blank* when it holds
blank characters only, the empty text included; a record is *empty* when its bytes are
blank in the ASCII sense.

Main statements: trimming a text leaves nothing exactly when the text is blank
(`trim_eq_empty_iff`), and the characters that core calls white space are blank
(`isBlank_of_isWhitespace`).
-/

namespace MessageIntake.Text

/-- **Blank characters**: those with the Unicode property `White_Space`. -/
def isBlank (c : Char) : Bool :=
  let n := c.toNat
  (0x09 ≤ n && n ≤ 0x0d) || n == 0x20 || n == 0x85 || n == 0xa0 || n == 0x1680 ||
    (0x2000 ≤ n && n ≤ 0x200a) || n == 0x2028 || n == 0x2029 || n == 0x202f ||
    n == 0x205f || n == 0x3000

/-- **Blank bytes**: space, tab, line feed, form feed and carriage return. -/
def isBlankByte (b : UInt8) : Bool :=
  b == 0x20 || b == 0x09 || b == 0x0a || b == 0x0c || b == 0x0d

/-- The text holds blank characters only. -/
def allBlank (s : String) : Bool :=
  s.toList.all isBlank

/-- Drops the blank characters at the end of a list. -/
def dropBlankEnd (cs : List Char) : List Char :=
  (cs.reverse.dropWhile isBlank).reverse

/-- **Trimming** drops the blank characters at both ends. -/
def trim (s : String) : String :=
  String.ofList (dropBlankEnd (s.toList.dropWhile isBlank))

/-- Dropping a run leaves nothing exactly when the run is all there is. -/
theorem dropWhile_eq_nil_iff_all {α : Type} (p : α → Bool) (l : List α) :
    l.dropWhile p = [] ↔ l.all p = true := by
  induction l with
  | nil => simp
  | cons a l ih => by_cases h : p a <;> simp [h, ih]

/-- Nothing is left after the end is trimmed exactly when all was blank. -/
theorem dropBlankEnd_eq_nil_iff (cs : List Char) :
    dropBlankEnd cs = [] ↔ cs.all isBlank = true := by
  rw [dropBlankEnd, List.reverse_eq_nil_iff, dropWhile_eq_nil_iff_all, List.all_reverse]

/-- What is left after dropping a run is blank exactly when the whole was. -/
theorem all_dropWhile_isBlank (cs : List Char) :
    (cs.dropWhile isBlank).all isBlank = cs.all isBlank := by
  induction cs with
  | nil => rfl
  | cons c cs ih => by_cases h : isBlank c <;> simp [h, ih]

/-- **Trimming to nothing**: exactly the blank texts are trimmed away. -/
theorem trim_eq_empty_iff (s : String) : trim s = "" ↔ allBlank s = true := by
  have hnil : trim s = "" ↔ dropBlankEnd (s.toList.dropWhile isBlank) = [] := by
    constructor
    · intro h
      have := congrArg String.toList h
      simpa [trim] using this
    · intro h
      simp [trim, h]
  rw [hnil, dropBlankEnd_eq_nil_iff, all_dropWhile_isBlank, allBlank]

/-- Core's white space is blank. -/
theorem isBlank_of_isWhitespace {c : Char} (h : c.isWhitespace = true) : isBlank c = true := by
  simp only [Char.isWhitespace, Bool.or_eq_true, decide_eq_true_eq] at h
  rcases h with ((rfl | rfl) | rfl) | rfl <;> decide

end MessageIntake.Text
