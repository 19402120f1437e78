import Mathlib.Algebra.Ring.Int.Defs
import MessageIntake.Json.Printer
import MessageIntake.Json.Reader
import MessageIntake.Proofs.Text.Utf8
/-!
# Numbers read back

A number is read from its digits: those before the point, those behind it, and an exponent. As long
as all digits fit a word, the reader has them all, and only their scale is left to it.

Main statements: a whole number of 64 bits reads back as itself (`value_integer`), and a number with
a point or an exponent has all its digits, whose scale is counted by them (`magnitude_point`,
`floatEnd_exponent`).
-/

namespace MessageIntake.Json

open Utf8 (bytesOf)

/-! ### What follows a value -/

/-- **A value is delimited** if nothing follows it, or a comma or a closing mark. -/
def Delimited (rest : Bytes) : Prop :=
  ∀ b ∈ rest.head?, b = 0x2c ∨ b = 0x5d ∨ b = 0x7d

theorem delimited_nil : Delimited [] := nofun

theorem delimited_cons {b : UInt8} (rest : Bytes) (ends : b = 0x2c ∨ b = 0x5d ∨ b = 0x7d) :
    Delimited (b :: rest) := by
  rintro _ ⟨⟩
  exact ends

theorem Delimited.startsWithDigit {rest : Bytes} (h : Delimited rest) :
    startsWithDigit rest = false := by
  cases rest with
  | nil => rfl
  | cons b rest =>
    obtain rfl | rfl | rfl := h b rfl
    all_goals rfl

theorem Delimited.startsExponent {rest : Bytes} (h : Delimited rest) :
    startsExponent rest = false := by
  cases rest with
  | nil => rfl
  | cons b rest =>
    obtain rfl | rfl | rfl := h b rfl
    all_goals rfl

/-! ### Digits -/

/-- A digit is one of ten. -/
theorem exists_of_isDigit {c : Char} (digit : c.isDigit = true) :
    ∃ n < 10, c = Char.ofNat (48 + n) := by
  have bounds : 48 ≤ c.toNat ∧ c.toNat ≤ 57 := by
    simpa [Char.isDigit, UInt32.le_iff_toNat_le] using digit
  refine ⟨c.toNat - 48, by omega, ?_⟩
  rw [Nat.add_sub_of_le bounds.1, Char.ofNat_toNat]

/-- The byte of a digit. -/
theorem utf8EncodeChar_of_isDigit {c : Char} (digit : c.isDigit = true) :
    ∃ b, String.utf8EncodeChar c = [b] ∧ isDigit b = true ∧ b.toNat - 0x30 = c.toNat - '0'.toNat ∧
      (b = 0x30 ↔ c = '0') := by
  obtain ⟨n, lt, rfl⟩ := exists_of_isDigit digit
  refine ⟨UInt8.ofNat (48 + n), ?_⟩
  clear digit
  revert n
  decide

/-- Leading digits only make a number greater. -/
theorem le_ofDigitChars (ds : List Char) (n : Nat) : n ≤ Nat.ofDigitChars 10 ds n := by
  rw [Nat.ofDigitChars_eq_ofDigitChars_zero]
  exact (Nat.le_mul_of_pos_left n (Nat.pow_pos (by decide))).trans (Nat.le_add_right _ _)

/-- **Digits are taken** while they fit a word. -/
theorem absorb_digits {ds : List Char} (digits : ∀ c ∈ ds, c.isDigit = true) {significand : Nat}
    (count : Nat) (fits : Nat.ofDigitChars 10 ds significand ≤ wordLimit) {rest : Bytes}
    (ends : startsWithDigit rest = false) :
    absorb significand count (bytesOf ds ++ rest) =
      (Nat.ofDigitChars 10 ds significand, count + ds.length, rest) := by
  induction ds generalizing significand count with
  | nil =>
    cases rest with
    | nil => rfl
    | cons b rest =>
      have notDigit : isDigit b = false := ends
      simp [absorb, notDigit]
  | cons c ds ih =>
    obtain ⟨b, bytes, digit, number, -⟩ := utf8EncodeChar_of_isDigit (digits c List.mem_cons_self)
    rw [Nat.ofDigitChars_cons] at fits ⊢
    have next_le : significand * 10 + (c.toNat - '0'.toNat) ≤ wordLimit := by
      have := le_ofDigitChars ds (10 * significand + (c.toNat - '0'.toNat))
      omega
    rw [Utf8.bytesOf_cons, bytes, List.singleton_append, List.cons_append, absorb, number]
    rw [if_pos (by simp only [digit, Bool.true_and]; exact decide_eq_true next_le),
      Nat.mul_comm, ih (fun c mem => digits c (List.mem_cons_of_mem _ mem)) (count + 1) fits]
    simp only [List.length_cons, Prod.mk.injEq, and_true, true_and]
    omega

theorem skipDigits_of_not {rest : Bytes} (ends : startsWithDigit rest = false) :
    skipDigits 0 rest = (0, rest) := by
  cases rest with
  | nil => rfl
  | cons b rest =>
    have notDigit : isDigit b = false := ends
    simp [skipDigits, notDigit]

/-! ### The parts of a number -/

/-- **The digits before the point**: zero alone, or any that do not start with it. -/
structure WholePart (ds : List Char) : Prop where
  nonempty : ds ≠ []
  digits : ∀ c ∈ ds, c.isDigit = true
  leading : ds.head? = some '0' → ds = ['0']

/-- **The whole part** is taken up to its end. -/
theorem magnitude_whole {ds : List Char} (h : WholePart ds) (negative : Bool)
    (fits : Nat.ofDigitChars 10 ds 0 ≤ wordLimit) {rest : Bytes}
    (ends : startsWithDigit rest = false) :
    magnitude negative (bytesOf ds ++ rest) =
      numberEnd negative (Nat.ofDigitChars 10 ds 0) 0 rest := by
  obtain ⟨nonempty, digits, leading⟩ := h
  cases ds with
  | nil => exact absurd rfl nonempty
  | cons c ds =>
    obtain ⟨b, bytes, digit, number, zero⟩ :=
      utf8EncodeChar_of_isDigit (digits c List.mem_cons_self)
    rw [Utf8.bytesOf_cons, bytes, List.singleton_append, List.cons_append, magnitude]
    by_cases isZero : c = '0'
    · subst isZero
      cases leading rfl
      rw [if_pos (beq_iff_eq.2 (zero.2 rfl)), Utf8.bytesOf_nil, List.nil_append, ends]
      rfl
    · rw [Nat.ofDigitChars_cons, Nat.mul_zero, Nat.zero_add] at fits ⊢
      rw [if_neg (by simpa using mt zero.1 isZero), if_pos digit, number,
        absorb_digits (fun c mem => digits c (List.mem_cons_of_mem _ mem)) 1 fits ends]
      simp only [skipDigits_of_not ends]

/-- **The digits behind the point** go on with the significand. -/
theorem fractionPart_digits {ds : List Char} (nonempty : ds ≠ [])
    (digits : ∀ c ∈ ds, c.isDigit = true) (negative : Bool) {significand : Nat} (scale : Int)
    (fits : Nat.ofDigitChars 10 ds significand ≤ wordLimit) {rest : Bytes}
    (ends : startsWithDigit rest = false) :
    fractionPart negative significand scale (bytesOf ds ++ rest) =
      floatEnd negative (Nat.ofDigitChars 10 ds significand) (scale - ds.length) rest := by
  simp only [fractionPart, absorb_digits digits 0 fits ends, skipDigits_of_not ends]
  rw [if_neg (by simp [nonempty]), Nat.zero_add]

/-- **A number with a point**: all its digits, and the scale of those behind it. -/
theorem magnitude_point {whole fraction : List Char} (h : WholePart whole)
    (nonempty : fraction ≠ []) (digits : ∀ c ∈ fraction, c.isDigit = true) (negative : Bool)
    (fits : Nat.ofDigitChars 10 (whole ++ fraction) 0 ≤ wordLimit) {rest : Bytes}
    (ends : startsWithDigit rest = false) :
    magnitude negative (bytesOf (whole ++ '.' :: fraction) ++ rest) =
      floatEnd negative (Nat.ofDigitChars 10 (whole ++ fraction) 0) (-fraction.length) rest := by
  rw [Nat.ofDigitChars_append] at fits ⊢
  have point : bytesOf (whole ++ '.' :: fraction) ++ rest =
      bytesOf whole ++ 0x2e :: (bytesOf fraction ++ rest) := by
    rw [Utf8.bytesOf_append, Utf8.bytesOf_cons, List.append_assoc]
    rfl
  rw [point, magnitude_whole h negative ((le_ofDigitChars _ _).trans fits) rfl, numberEnd,
    fractionPart_digits nonempty digits negative _ fits ends]
  simp

/-- **An exponent** adds to the scale, or takes from it. -/
theorem exponentDigits_digits {ds : List Char} (digits : ∀ c ∈ ds, c.isDigit = true)
    (negative growing : Bool) (significand : Nat) (scale : Int) {e : Nat}
    (fits : Nat.ofDigitChars 10 ds e ≤ exponentLimit) {rest : Bytes}
    (ends : startsWithDigit rest = false) :
    exponentDigits negative growing significand scale e (bytesOf ds ++ rest) =
      floatValue negative significand
        (if growing then scale + Nat.ofDigitChars 10 ds e else scale - Nat.ofDigitChars 10 ds e)
        rest := by
  induction ds generalizing e with
  | nil =>
    cases rest with
    | nil => rfl
    | cons b rest =>
      have notDigit : isDigit b = false := ends
      simp [exponentDigits, notDigit]
  | cons c ds ih =>
    obtain ⟨b, bytes, digit, number, -⟩ := utf8EncodeChar_of_isDigit (digits c List.mem_cons_self)
    rw [Nat.ofDigitChars_cons] at fits ⊢
    have next_le : e * 10 + (c.toNat - '0'.toNat) ≤ exponentLimit := by
      have := le_ofDigitChars ds (10 * e + (c.toNat - '0'.toNat))
      omega
    rw [Utf8.bytesOf_cons, bytes, List.singleton_append, List.cons_append, exponentDigits, number,
      if_pos digit]
    dsimp only
    rw [if_pos next_le, Nat.mul_comm, ih (fun c mem => digits c (List.mem_cons_of_mem _ mem)) fits]

/-- The end of a float with an exponent. -/
theorem floatEnd_exponent {ds : List Char} (nonempty : ds ≠ [])
    (digits : ∀ c ∈ ds, c.isDigit = true) (negative growing : Bool) (significand : Nat)
    (scale : Int) (fits : Nat.ofDigitChars 10 ds 0 ≤ exponentLimit) {rest : Bytes}
    (ends : startsWithDigit rest = false) :
    floatEnd negative significand scale
        (bytesOf ('e' :: (if growing then '+' else '-') :: ds) ++ rest) =
      floatValue negative significand
        (if growing then scale + Nat.ofDigitChars 10 ds 0 else scale - Nat.ofDigitChars 10 ds 0)
        rest := by
  cases ds with
  | nil => exact absurd rfl nonempty
  | cons c ds =>
    obtain ⟨b, bytes, digit, number, -⟩ := utf8EncodeChar_of_isDigit (digits c List.mem_cons_self)
    have written : bytesOf ('e' :: (if growing then '+' else '-') :: c :: ds) ++ rest =
        0x65 :: (if growing then 0x2b else 0x2d) :: b :: (bytesOf ds ++ rest) := by
      rw [Utf8.bytesOf_cons, Utf8.bytesOf_cons, Utf8.bytesOf_cons, bytes]
      cases growing <;> rfl
    rw [Nat.ofDigitChars_cons, Nat.mul_zero, Nat.zero_add] at fits ⊢
    have opens : ∀ bs, startsExponent (0x65 :: bs) = true := fun _ => rfl
    rw [written, floatEnd, if_pos (opens _), List.drop_one, List.tail_cons,
      ← exponentDigits_digits (fun c mem => digits c (List.mem_cons_of_mem _ mem)) negative growing
        significand scale fits ends, ← number]
    cases growing with
    | true => exact if_pos digit
    | false => exact if_pos digit

/-- A float that just ends. -/
theorem floatEnd_of_delimited (negative : Bool) (significand : Nat) (scale : Int) {rest : Bytes}
    (ends : Delimited rest) :
    floatEnd negative significand scale rest = floatValue negative significand scale rest := by
  rw [floatEnd, ends.startsExponent, if_neg Bool.false_ne_true]

/-! ### Whole numbers -/

/-- **A whole number** is written without leading zeros. -/
theorem wholePart_toDigits (n : Nat) : WholePart (Nat.toDigits 10 n) where
  nonempty := Nat.toDigits_ne_nil
  digits _ mem := Nat.isDigit_of_mem_toDigits (by decide) (by decide) mem
  leading := by
    induction n using Nat.strongRecOn with
    | ind n ih =>
      rcases Nat.lt_or_ge n 10 with small | large
      · rw [Nat.toDigits_of_lt_base small]
        intro zero
        rw [Option.some.inj zero]
      · -- the first digit is that of a tenth, which is not zero
        intro zero
        have first : (Nat.toDigits 10 (n / 10)).head? = some '0' := by
          rw [Nat.toDigits_of_base_le (by decide) large] at zero
          cases eq : Nat.toDigits 10 (n / 10) with
          | nil => exact absurd eq Nat.toDigits_ne_nil
          | cons c ds => simpa [eq] using zero
        have tenth := ih (n / 10) (by omega) first
        have value := congrArg (fun ds => Nat.ofDigitChars 10 ds 0) tenth
        rw [Nat.ofDigitChars_ten_toDigits] at value
        have : n / 10 = 0 := value
        omega

theorem numberEnd_of_delimited (negative : Bool) (significand : Nat) {rest : Bytes}
    (ends : Delimited rest) :
    numberEnd negative significand 0 rest =
      if !negative then .ok (.integer significand, rest)
      else if significand == 0 || significand > 0x8000000000000000 then
        .ok (.float (Binary64.ofNat significand).neg, rest)
      else .ok (.integer (-(significand : Int)), rest) := by
  cases rest with
  | nil => rfl
  | cons b rest =>
    obtain rfl | rfl | rfl := ends b rfl
    all_goals rfl

/-- **A number at the start of a value** is read by its magnitude. -/
theorem value_signed (depth : Nat) (negative : Bool) {bytes : Bytes}
    (digit : startsWithDigit bytes = true) :
    value depth ((if negative then [0x2d] else []) ++ bytes) =
      (magnitude negative bytes).map fun (n, rest) => (.number n, rest) := by
  cases negative with
  | true => simp [value, skipSpace]
  | false =>
    cases bytes with
    | nil => cases digit
    | cons b rest =>
      have digit : isDigit b = true := digit
      have bounds : 0x30 ≤ b ∧ b ≤ 0x39 := by simpa [isDigit] using digit
      have apart : ∀ c : UInt8, c < 0x30 ∨ 0x39 < c → (b == c) = false := by
        intro c outside
        rw [beq_eq_false_iff_ne]
        rintro rfl
        exact outside.elim (UInt8.not_lt.2 bounds.1) (UInt8.not_lt.2 bounds.2)
      have noSpace : skipSpace (b :: rest) = b :: rest := by
        simp [skipSpace, apart]
      simp [value, noSpace, apart, digit]

/-- The written form of a number begins with a digit, behind its sign. -/
theorem startsWithDigit_of_wholePart {ds : List Char} (h : WholePart ds) (bytes : Bytes) :
    startsWithDigit (bytesOf ds ++ bytes) = true := by
  cases ds with
  | nil => exact absurd rfl h.nonempty
  | cons c ds =>
    obtain ⟨b, bytes, digit, -⟩ := utf8EncodeChar_of_isDigit (h.digits c List.mem_cons_self)
    rw [Utf8.bytesOf_cons, bytes]
    exact digit

theorem bytesOf_sign (negative : Bool) (s : String) :
    bytesOf ((if negative then "-" else "") ++ s).toList =
      (if negative then [0x2d] else []) ++ bytesOf s.toList := by
  cases negative with
  | true => rw [String.toList_append, Utf8.bytesOf_append]; rfl
  | false => rw [String.toList_append, Utf8.bytesOf_append]; rfl

/-- **A whole number of 64 bits** reads back as itself. -/
theorem value_integer {n : Int} (least : -2 ^ 63 ≤ n) (lt : n < 2 ^ 64) (depth : Nat)
    {rest : Bytes} (ends : Delimited rest) :
    value depth (bytesOf (Number.integer n).text.toList ++ rest) =
      .ok (.number (.integer n), rest) := by
  have whole := wholePart_toDigits n.natAbs
  have fits : Nat.ofDigitChars 10 (Nat.toDigits 10 n.natAbs) 0 ≤ wordLimit := by
    rw [Nat.ofDigitChars_ten_toDigits, wordLimit]
    omega
  have written : bytesOf (Number.integer n).text.toList =
      (if n < 0 then [0x2d] else []) ++ bytesOf (Nat.toDigits 10 n.natAbs) := by
    have := bytesOf_sign (decide (n < 0)) (Nat.repr n.natAbs)
    simpa only [Number.text, decide_eq_true_eq, Nat.toList_repr] using this
  have reads : magnitude (decide (n < 0)) (bytesOf (Nat.toDigits 10 n.natAbs) ++ rest) =
      .ok (.integer n, rest) := by
    rw [magnitude_whole whole _ fits ends.startsWithDigit, Nat.ofDigitChars_ten_toDigits,
      numberEnd_of_delimited _ _ ends]
    rcases Int.lt_or_le n 0 with negative | nonnegative
    · rw [decide_eq_true negative, if_neg (by decide), if_neg (by simp; omega),
        show -(n.natAbs : Int) = n by omega]
    · rw [decide_eq_false (Int.not_lt.2 nonnegative), if_pos (by decide),
        show (n.natAbs : Int) = n by omega]
  have signed := value_signed depth (decide (n < 0)) (startsWithDigit_of_wholePart whole rest)
  simp only [reads, decide_eq_true_eq] at signed
  rw [written, List.append_assoc, signed]
  rfl

end MessageIntake.Json
