import MessageIntake.Proofs.Json.Floats
/-!
# Floats as they are written

A float is written in *parts*: digits before the point, perhaps digits behind it, and perhaps an
exponent. Two readers take the parts together again. One is exact, and rounds the number that they
write once; the other, that of JSON, scales the digits by a power of ten that is itself rounded, and
may come to a neighbour of the float.

Main statements: the text of a finite float writes a number whose nearest float it is
(`ofText?_text`), and JSON reads it as a float, whatever follows it (`value_float`).
-/

namespace MessageIntake.Json

open Binary64 (Numeric Representable unitsPerOne unitsLimit)
open Utf8 (bytesOf)

/-! ### Parts -/

/-- **A written float**: its digits, those before the point and those behind it, and its exponent.
Without an exponent there is a point. -/
structure Written where
  whole : List Char
  fraction : List Char
  exponent : Option Int
  isWhole : WholePart whole
  digits : ∀ c ∈ fraction, c.isDigit = true
  isFloat : fraction ≠ [] ∨ exponent ≠ none

namespace Written

/-- The point with the digits behind it, if there are any. -/
def pointText (fraction : List Char) : List Char :=
  if fraction.isEmpty then [] else '.' :: fraction

/-- An exponent with its sign. -/
def exponentText : Option Int → List Char
  | none => []
  | some e => 'e' :: (if decide (0 ≤ e) then '+' else '-') :: Nat.toDigits 10 e.natAbs

/-- The characters of a written float. -/
def text (w : Written) : List Char :=
  w.whole ++ (pointText w.fraction ++ exponentText w.exponent)

/-- All digits as one number. -/
def significand (w : Written) : Nat := Nat.ofDigitChars 10 (w.whole ++ w.fraction) 0

/-- The power of ten that scales it. -/
def scale (w : Written) : Int := w.exponent.getD 0 - w.fraction.length

end Written

/-! ### Reading the parts in JSON -/

theorem floatEnd_exponentText {exponent : Option Int}
    (near : (exponent.getD 0).natAbs ≤ exponentLimit) (negative : Bool) (significand : Nat)
    (scale : Int) {rest : Bytes} (ends : Delimited rest) :
    floatEnd negative significand scale (bytesOf (Written.exponentText exponent) ++ rest) =
      floatValue negative significand (exponent.getD 0 + scale) rest := by
  cases exponent with
  | none =>
    rw [Written.exponentText, Utf8.bytesOf_nil, List.nil_append,
      floatEnd_of_delimited negative significand scale ends, Option.getD_none, zero_add]
  | some e =>
    rw [Option.getD_some] at near ⊢
    rw [Written.exponentText, floatEnd_exponent Nat.toDigits_ne_nil
      (wholePart_toDigits e.natAbs).digits negative _ _ scale
      (by rwa [Nat.ofDigitChars_ten_toDigits]) ends.startsWithDigit, Nat.ofDigitChars_ten_toDigits]
    congr 1
    rcases Int.lt_or_le e 0 with falling | growing
    · rw [decide_eq_false (Int.not_le.2 falling), if_neg Bool.false_ne_true]
      omega
    · rw [decide_eq_true growing, if_pos rfl]
      omega

theorem startsWithDigit_exponentText (exponent : Option Int) {rest : Bytes}
    (ends : Delimited rest) :
    startsWithDigit (bytesOf (Written.exponentText exponent) ++ rest) = false := by
  cases exponent with
  | none => exact ends.startsWithDigit
  | some e => rfl

/-- A whole part before an exponent. -/
theorem magnitude_exponent {ds : List Char} (h : WholePart ds) (negative : Bool)
    (fits : Nat.ofDigitChars 10 ds 0 ≤ wordLimit) (bytes : Bytes) :
    magnitude negative (bytesOf ds ++ 0x65 :: bytes) =
      floatEnd negative (Nat.ofDigitChars 10 ds 0) 0 (0x65 :: bytes) := by
  rw [magnitude_whole h negative fits rfl]
  simp [numberEnd, startsExponent]

/-- **A written float** is read with all its digits, to scale. -/
theorem magnitude_written (w : Written) (fits : w.significand ≤ wordLimit)
    (near : (w.exponent.getD 0).natAbs ≤ exponentLimit) (negative : Bool) {rest : Bytes}
    (ends : Delimited rest) :
    magnitude negative (bytesOf w.text ++ rest) =
      floatValue negative w.significand w.scale rest := by
  obtain ⟨whole, fraction, exponent, isWhole, digits, isFloat⟩ := w
  simp only [Written.significand, Written.scale, Written.text] at fits near ⊢
  rw [sub_eq_add_neg, ← floatEnd_exponentText near negative _ _ ends, Utf8.bytesOf_append,
    Utf8.bytesOf_append, List.append_assoc, List.append_assoc]
  cases fraction with
  | nil =>
    cases exponent with
    | none => simp at isFloat
    | some e =>
      rw [List.append_nil] at fits ⊢
      exact magnitude_exponent isWhole negative fits _
  | cons c fraction =>
    have point := magnitude_point isWhole (List.cons_ne_nil c fraction) digits negative fits
      (startsWithDigit_exponentText exponent ends)
    rw [Utf8.bytesOf_append, List.append_assoc] at point
    exact point

/-! ### Reading the parts exactly -/

theorem digitsValue_eq (ds : List Char) :
    Binary64.digitsValue ds = Nat.ofDigitChars 10 ds 0 := by
  rw [Binary64.digitsValue, Nat.ofDigitChars_eq_foldl]
  simp only [Nat.mul_comm]

theorem takeWhile_digits {ds rest : List Char} (digits : ∀ c ∈ ds, c.isDigit = true)
    (ends : ∀ c ∈ rest.head?, c.isDigit = false) :
    (ds ++ rest).takeWhile Char.isDigit = ds ∧ (ds ++ rest).dropWhile Char.isDigit = rest := by
  rw [List.takeWhile_append_of_pos digits, List.dropWhile_append_of_pos digits]
  cases rest with
  | nil => exact ⟨List.append_nil ds, rfl⟩
  | cons c rest =>
    have notDigit : ¬c.isDigit = true := by simp [ends c rfl]
    exact ⟨by rw [List.takeWhile_cons_of_neg notDigit, List.append_nil],
      List.dropWhile_cons_of_neg notDigit⟩

theorem not_isDigit_of_exponentText (exponent : Option Int) :
    ∀ c ∈ (Written.exponentText exponent).head?, c.isDigit = false := by
  cases exponent with
  | none => nofun
  | some e =>
    rintro _ ⟨⟩
    rfl

theorem readExponent_exponentText (exponent : Option Int) :
    Binary64.readExponent (Written.exponentText exponent) = some (exponent.getD 0) := by
  cases exponent with
  | none => rfl
  | some e =>
    have nonempty : (Nat.toDigits 10 e.natAbs).isEmpty = false := by
      simp [Nat.toDigits_ne_nil]
    have digits : (Nat.toDigits 10 e.natAbs).all Char.isDigit = true :=
      List.all_eq_true.2 (wholePart_toDigits e.natAbs).digits
    have value : Binary64.digitsValue (Nat.toDigits 10 e.natAbs) = e.natAbs := by
      rw [digitsValue_eq, Nat.ofDigitChars_ten_toDigits]
    rcases Int.lt_or_le e 0 with falling | growing
    · have whole : -(e.natAbs : Int) = e := by omega
      rw [Written.exponentText, decide_eq_false (Int.not_le.2 falling)]
      simpa [Binary64.readExponent, nonempty, digits, value] using whole
    · have whole : (e.natAbs : Int) = e := by omega
      rw [Written.exponentText, decide_eq_true growing]
      simpa [Binary64.readExponent, nonempty, digits, value] using whole

/-- **A written float** is read as the nearest value to what it writes. -/
theorem readMagnitude_written (w : Written) (negative : Bool) :
    Binary64.readMagnitude negative w.text =
      some (.ofDecimal negative w.significand (w.whole ++ w.fraction).length w.scale) := by
  obtain ⟨whole, fraction, exponent, isWhole, digits, isFloat⟩ := w
  have exponentEnds := not_isDigit_of_exponentText exponent
  have exponentReads := readExponent_exponentText exponent
  have some_digit : ¬(whole ++ fraction).isEmpty = true := by simp [isWhole.nonempty]
  simp only [Written.significand, ← digitsValue_eq]
  cases fraction with
  | nil =>
    obtain ⟨before, after⟩ := takeWhile_digits isWhole.digits exponentEnds
    have written : Written.text ⟨whole, [], exponent, isWhole, digits, isFloat⟩ =
        whole ++ Written.exponentText exponent := rfl
    have noPoint : ∀ r, Written.exponentText exponent ≠ '.' :: r := by
      cases exponent <;> simp [Written.exponentText]
    rw [Binary64.readMagnitude, written, before, after]
    split
    next fraction rest eq =>
    split at eq
    · next r point => exact absurd point (noPoint r)
    · cases eq
      rw [if_neg some_digit, exponentReads]
      rfl
  | cons c fraction =>
    have pointEnds : ∀ d ∈ ('.' :: (c :: fraction ++ Written.exponentText exponent)).head?,
        d.isDigit = false := by
      rintro _ ⟨⟩
      rfl
    obtain ⟨before, after⟩ := takeWhile_digits isWhole.digits pointEnds
    obtain ⟨behind, last⟩ := takeWhile_digits digits exponentEnds
    have written : Written.text ⟨whole, c :: fraction, exponent, isWhole, digits, isFloat⟩ =
        whole ++ '.' :: (c :: fraction ++ Written.exponentText exponent) := rfl
    rw [Binary64.readMagnitude, written, before, after]
    split
    next fraction rest eq =>
    split at eq
    · next r point =>
      cases point
      rw [behind, last] at eq
      cases eq
      rw [if_neg some_digit, exponentReads]
      rfl
    · next other => exact absurd rfl (other _)

/-! ### Decimals as they are written -/

theorem WholePart.append {ds : List Char} (h : WholePart ds) (notZero : ds ≠ ['0'])
    {more : List Char} (digits : ∀ c ∈ more, c.isDigit = true) : WholePart (ds ++ more) where
  nonempty := by simp [h.nonempty]
  digits c mem := (List.mem_append.1 mem).elim (h.digits c) (digits c)
  leading first := by
    cases ds with
    | nil => exact absurd rfl h.nonempty
    | cons c ds => exact absurd (h.leading first) notZero

theorem WholePart.take {ds : List Char} (h : WholePart ds) (notZero : ds ≠ ['0']) {n : Nat}
    (pos : 0 < n) : WholePart (ds.take n) where
  nonempty := by simp [h.nonempty, pos.ne']
  digits c mem := h.digits c (List.mem_of_mem_take mem)
  leading first := by
    rw [List.head?_take, if_neg pos.ne'] at first
    exact absurd (h.leading first) notZero

theorem toDigits_ne_zero {n : Nat} (pos : 0 < n) : Nat.toDigits 10 n ≠ ['0'] := by
  intro zero
  have value := Nat.ofDigitChars_ten_toDigits (n := n)
  rw [zero] at value
  exact pos.ne value

/-- **A decimal is written**, perhaps with more zeros, and within the bounds of the readers. -/
structure Written.Writes (w : Written) (d : Binary64.Decimal) : Prop where
  scale_le : w.scale ≤ d.exponent
  significand : w.significand = d.digits * 10 ^ (d.exponent - w.scale).toNat
  fits : w.significand ≤ wordLimit
  near : (w.exponent.getD 0).natAbs ≤ 400

/-- What is written is the decimal, exactly. -/
theorem Written.Writes.units {w : Written} {d : Binary64.Decimal} (h : w.Writes d) :
    w.significand * Binary64.grid w.scale = d.units := by
  have sum : d.exponent = w.scale + (d.exponent - w.scale).toNat := by
    have := h.scale_le
    omega
  rw [Binary64.Decimal.units, h.significand, sum, Binary64.Shortest.grid_add, zpow_natCast]
  rw [← sum]
  push_cast
  ring

/-- A decimal that is written digit by digit. -/
theorem Written.Writes.of_eq {w : Written} {d : Binary64.Decimal} (scale : w.scale = d.exponent)
    (significand : w.significand = d.digits) (le : d.digits ≤ 10 ^ 17)
    (near : (w.exponent.getD 0).natAbs ≤ 400) : w.Writes d where
  scale_le := scale.le
  significand := by rw [significand, scale, sub_self, Int.toNat_zero, Nat.pow_zero, Nat.mul_one]
  fits := by
    rw [significand, wordLimit]
    omega
  near := near

/-- The digits of a whole decimal with its zeros. -/
theorem exists_written_whole {d : Binary64.Decimal} (some_digit : 0 < d.digits)
    (high : 0 ≤ d.exponent)
    (short : d.exponent + (Binary64.Shortest.digitCount d.digits : Int) - 1 < 16) :
    ∃ w : Written, (floatLayout.inPlaceText d).toList = w.text ∧ w.Writes d ∧ w.scale < 0 := by
  obtain ⟨k, exponent⟩ := Int.eq_ofNat_of_zero_le high
  have whole : WholePart (Nat.toDigits 10 d.digits ++ List.replicate k '0') :=
    (wholePart_toDigits d.digits).append (toDigits_ne_zero some_digit)
      fun c mem => by rw [List.eq_of_mem_replicate mem]; rfl
  let w : Written := ⟨_, ['0'], none, whole, by simp, .inl (List.cons_ne_nil _ _)⟩
  have written : (floatLayout.inPlaceText d).toList = w.text := by
    simp only [Binary64.Layout.inPlaceText]
    rw [if_pos high, exponent, Int.toNat_natCast, String.toList_append, String.toList_ofList]
    rfl
  have value : w.significand = d.digits * 10 ^ (k + 1) := by
    change Nat.ofDigitChars 10 (Nat.toDigits 10 d.digits ++ List.replicate k '0' ++ ['0']) 0 = _
    rw [List.append_assoc, ← List.replicate_succ', Nat.ofDigitChars_append,
      Nat.ofDigitChars_ten_toDigits, Nat.ofDigitChars_replicate_zero, Nat.mul_comm]
  have scale : w.scale = -1 := rfl
  refine ⟨w, written, ⟨by omega, ?_, ?_, Nat.zero_le _⟩, by omega⟩
  · rw [value, scale, exponent]
    rfl
  · have count : d.digits < 10 ^ Binary64.Shortest.digitCount d.digits :=
      (Nat.length_toDigits_le_iff (by decide) Nat.length_toDigits_pos).1 le_rfl
    calc
      w.significand = d.digits * 10 ^ (k + 1) := value
      _ ≤ 10 ^ Binary64.Shortest.digitCount d.digits * 10 ^ (k + 1) :=
        Nat.mul_le_mul_right _ count.le
      _ = 10 ^ (Binary64.Shortest.digitCount d.digits + (k + 1)) := (Nat.pow_add ..).symm
      _ ≤ 10 ^ 17 := Nat.pow_le_pow_right (by decide) (by omega)
      _ ≤ wordLimit := by decide

/-- Digits with zeros before them, so that there are more than behind the point. -/
def padded (ds : List Char) (places : Nat) : List Char :=
  List.replicate (places + 1 - ds.length) '0' ++ ds

theorem length_padded (ds : List Char) (places : Nat) :
    (padded ds places).length = max ds.length (places + 1) := by
  rw [padded, List.length_append, List.length_replicate]
  omega

theorem ofDigitChars_padded (ds : List Char) (places : Nat) :
    Nat.ofDigitChars 10 (padded ds places) 0 = Nat.ofDigitChars 10 ds 0 := by
  rw [padded, Nat.ofDigitChars_append, Nat.ofDigitChars_replicate_zero, Nat.mul_zero]

theorem isDigit_of_mem_padded {ds : List Char} (digits : ∀ c ∈ ds, c.isDigit = true)
    {places : Nat} {c : Char} (mem : c ∈ padded ds places) : c.isDigit = true := by
  rcases List.mem_append.1 mem with zero | mem
  · rw [List.eq_of_mem_replicate zero]
    rfl
  · exact digits c mem

/-- What stands before the point is zero alone, or has no zeros before it. -/
theorem WholePart.take_padded {ds : List Char} (h : WholePart ds) (notZero : ds ≠ ['0'])
    (places : Nat) : WholePart ((padded ds places).take ((padded ds places).length - places)) := by
  have length := length_padded ds places
  rcases Nat.lt_or_ge places ds.length with long | short
  · have same : padded ds places = ds := by
      rw [padded, Nat.sub_eq_zero_of_le long, List.replicate_zero, List.nil_append]
    rw [same]
    exact h.take notZero (by omega)
  · obtain ⟨zeros, count⟩ : ∃ zeros, places + 1 - ds.length = zeros + 1 :=
      ⟨places - ds.length, by omega⟩
    have one : (padded ds places).length - places = 1 := by omega
    rw [one, padded, count, List.replicate_succ]
    exact wholePart_toDigits 0

/-- The digits of a decimal with a point among them, or zeros before them. -/
theorem exists_written_places {d : Binary64.Decimal} (some_digit : 0 < d.digits)
    (digits_le : d.digits ≤ 10 ^ 17) (low : d.exponent < 0) :
    ∃ w : Written, (floatLayout.inPlaceText d).toList = w.text ∧ w.Writes d ∧ w.scale < 0 := by
  obtain ⟨places, exponent⟩ : ∃ places : Nat, d.exponent = -places :=
    ⟨(-d.exponent).toNat, by omega⟩
  have ds := wholePart_toDigits d.digits
  have value := Nat.ofDigitChars_ten_toDigits (n := d.digits)
  have whole := ds.take_padded (toDigits_ne_zero some_digit) places
  have written : (floatLayout.inPlaceText d).toList =
      let all := padded (Nat.toDigits 10 d.digits) places
      all.take (all.length - places) ++ '.' :: all.drop (all.length - places) := by
    simp only [Binary64.Layout.inPlaceText]
    rw [if_neg (by omega), exponent, neg_neg, Int.toNat_natCast]
    simp only [String.toList_append, String.toList_ofList, List.append_assoc]
    rfl
  have all := ofDigitChars_padded (Nat.toDigits 10 d.digits) places
  have digits : ∀ c ∈ padded (Nat.toDigits 10 d.digits) places, c.isDigit = true :=
    fun _ => isDigit_of_mem_padded ds.digits
  have length := length_padded (Nat.toDigits 10 d.digits) places
  generalize padded (Nat.toDigits 10 d.digits) places = padded at whole written all digits length
  have behind : (padded.drop (padded.length - places)).length = places := by
    rw [List.length_drop]
    omega
  have nonempty : padded.drop (padded.length - places) ≠ [] := by
    rw [← List.length_pos_iff, behind]
    omega
  let w : Written := ⟨_, _, none, whole, fun c mem => digits c (List.mem_of_mem_drop mem),
    .inl nonempty⟩
  have text : w.text = padded.take (padded.length - places) ++
      '.' :: padded.drop (padded.length - places) := by
    simp [w, Written.text, Written.pointText, Written.exponentText, nonempty]
  have scale : w.scale = d.exponent := by
    simp only [w, Written.scale, behind, Option.getD_none]
    omega
  have significand : w.significand = d.digits := by
    simp only [w, Written.significand, List.take_append_drop, all, value]
  exact ⟨w, written.trans text.symm, .of_eq scale significand digits_le (Nat.zero_le _),
    by omega⟩

/-- The digits of a decimal with one before the point, and an exponent. -/
theorem exists_written_scientific {d : Binary64.Decimal} (digits_le : d.digits ≤ 10 ^ 17)
    (least : -340 ≤ d.exponent) (most : d.exponent ≤ 308) :
    ∃ w : Written, (floatLayout.scientificText d).toList = w.text ∧ w.Writes d ∧
      w.scale = d.exponent := by
  have whole := wholePart_toDigits d.digits
  have value := Nat.ofDigitChars_ten_toDigits (n := d.digits)
  have short : (Nat.toDigits 10 d.digits).length ≤ 18 :=
    (Nat.length_toDigits_le_iff (by decide) (by decide)).2 (by omega)
  unfold Binary64.Layout.scientificText
  extract_lets ds e mantissa sign
  change WholePart ds at whole
  change Nat.ofDigitChars 10 ds 0 = d.digits at value
  change ds.length ≤ 18 at short
  have signed : sign.toList = [if decide (0 ≤ e) then '+' else '-'] := by
    rcases Int.lt_or_le e 0 with falling | growing
    · have eq : sign = "-" := if_pos falling
      rw [eq, decide_eq_false (Int.not_le.2 falling)]
      rfl
    · have eq : sign = "+" := (if_neg (Int.not_lt.2 growing)).trans (if_pos rfl)
      rw [eq, decide_eq_true growing]
      rfl
  have written : (mantissa ++ "e" ++ sign ++ Nat.repr e.natAbs).toList =
      mantissa.toList ++ Written.exponentText (some e) := by
    rw [String.toList_append, String.toList_append, String.toList_append, signed, Nat.toList_repr,
      List.append_assoc, List.append_assoc]
    rfl
  rw [written]
  -- nothing below is about the sign of the exponent, but for what is written of it
  clear written signed
  clear_value sign
  have near : e.natAbs ≤ 400 := by omega
  cases ds_eq : ds with
  | nil => exact absurd ds_eq whole.nonempty
  | cons c more =>
    have one : WholePart [c] := by
      rw [ds_eq] at whole
      cases more with
      | nil => exact whole
      | cons => exact whole.take (by simp) Nat.one_pos
    rw [ds_eq] at whole value
    let w : Written := ⟨[c], more, some e, one,
      fun c mem => whole.digits c (List.mem_cons_of_mem _ mem), .inr (Option.some_ne_none e)⟩
    have digits : mantissa.toList = [c] ++ Written.pointText more := by
      simp only [mantissa, ds_eq]
      cases more <;> rw [String.toList_ofList] <;> rfl
    have scale : w.scale = d.exponent := by
      simp only [w, Written.scale, Option.getD_some, e, ds_eq, List.length_cons]
      omega
    refine ⟨w, ?_, .of_eq scale value digits_le near, scale⟩
    rw [digits]
    exact List.append_assoc ..

/-! ### Floats -/

/-- The decimal of a float. -/
def decimalOf (units : Nat) : Binary64.Decimal :=
  if units = 0 then ⟨0, 0⟩ else Binary64.Shortest.decimal units

/-- **The text of a float** writes its decimal. A scale that is not negative is that of the decimal
itself. -/
theorem exists_written {units : Nat} (representable : Representable units)
    (small : units < unitsLimit) (negative : Bool) :
    ∃ body : String,
      (Number.float (.finite negative units)).text = (if negative then "-" else "") ++ body ∧
      ∃ w : Written, body.toList = w.text ∧ w.Writes (decimalOf units) ∧
        (w.scale < 0 ∨ 0 < units ∧ w.scale = (decimalOf units).exponent) := by
  refine ⟨_, rfl, ?_⟩
  rcases Nat.eq_zero_or_pos units with rfl | pos
  · let w : Written := ⟨['0'], ['0'], none, wholePart_toDigits 0, by simp,
      .inl (List.cons_ne_nil _ _)⟩
    exact ⟨w, rfl, ⟨by decide, rfl, Nat.zero_le _, Nat.zero_le _⟩, .inl (by decide)⟩
  · have some_digit := Binary64.Shortest.digits_decimal_pos pos
    have digits_le := Binary64.Shortest.digits_decimal_le pos
    have notZero : ¬(units == 0) = true := by simpa using pos.ne'
    rw [decimalOf, if_neg pos.ne', if_neg notZero]
    dsimp only
    split
    · next inPlace =>
      simp only [floatLayout, Bool.and_eq_true, decide_eq_true_eq] at inPlace
      rcases Int.lt_or_le (Binary64.Shortest.decimal units).exponent 0 with low | high
      · obtain ⟨w, text, writes, negative⟩ := exists_written_places some_digit digits_le low
        exact ⟨w, text, writes, .inl negative⟩
      · obtain ⟨w, text, writes, negative⟩ := exists_written_whole some_digit high inPlace.2
        exact ⟨w, text, writes, .inl negative⟩
    · obtain ⟨w, text, writes, scale⟩ := exists_written_scientific digits_le
        (Binary64.Shortest.le_exponent_decimal pos) (exponent_decimal_le pos representable small)
      exact ⟨w, text, writes, .inr ⟨pos, scale⟩⟩

/-! ### Read exactly -/

theorem Written.exists_text_eq (w : Written) :
    ∃ c rest, w.text = c :: rest ∧ c.isDigit = true := by
  obtain ⟨whole, fraction, exponent, isWhole, -, -⟩ := w
  cases whole with
  | nil => exact absurd rfl isWhole.nonempty
  | cons c whole => exact ⟨c, _, rfl, isWhole.digits c List.mem_cons_self⟩

/-- A number is no word. -/
theorem readWord_of_isDigit {c : Char} (digit : c.isDigit = true) (negative : Bool)
    (rest : List Char) : Binary64.readWord negative (c :: rest) = none := by
  have same : c.toLower = c := by
    obtain ⟨n, lt, rfl⟩ := exists_of_isDigit digit
    clear digit
    revert n
    decide
  have other : ∀ {word : String} {letter : Char} {letters : List Char},
      word.toList = letter :: letters → letter.isDigit = false →
        String.ofList ((c :: rest).map Char.toLower) ≠ word := by
    intro word letter letters spelled notDigit eq
    rw [← eq, String.toList_ofList, List.map_cons, same] at spelled
    rw [← (List.cons.inj spelled).1, digit] at notDigit
    cases notDigit
  unfold Binary64.readWord
  split
  · next word => exact absurd word (other (by rfl) (by decide))
  · next word => exact absurd word (other (by rfl) (by decide))
  · next word => exact absurd word (other (by rfl) (by decide))
  · rfl

/-- **A float is the nearest** to what is written for it. -/
theorem Written.Writes.ofDecimal_eq {w : Written} {units : Nat} (h : w.Writes (decimalOf units))
    (representable : Representable units) (small : units < unitsLimit) (negative : Bool) :
    Binary64.ofDecimal negative w.significand (w.whole ++ w.fraction).length w.scale =
      .finite negative units := by
  rcases Nat.eq_zero_or_pos units with rfl | pos
  · have zero : w.significand = 0 := h.significand.trans (Nat.zero_mul _)
    rw [zero]
    rfl
  · have decimal : decimalOf units = Binary64.Shortest.decimal units := if_neg pos.ne'
    have near := h.near
    have scale : w.scale = w.exponent.getD 0 - w.fraction.length := rfl
    have some_digit : 0 < w.significand := by
      rw [h.significand, decimal]
      exact Nat.mul_pos (Binary64.Shortest.digits_decimal_pos pos) (Nat.pow_pos (by decide))
    refine Binary64.Shortest.ofDecimal_of_contains representable small pos some_digit
      (by rw [List.length_append]; omega) (by omega) ?_ negative
    rw [h.units, decimal]
    exact Binary64.Shortest.contains_decimal pos

/-- A sign before a number is taken off. -/
theorem ofText?_of_sign {s : String} {negative : Bool} {c : Char} {rest : List Char}
    (digit : c.isDigit = true)
    (signed : s.toList = (if negative then ['-'] else []) ++ c :: rest) :
    Binary64.ofText? s = Binary64.readMagnitude negative (c :: rest) := by
  have number : (Binary64.readWord negative (c :: rest)).or
      (Binary64.readMagnitude negative (c :: rest)) =
        Binary64.readMagnitude negative (c :: rest) := by
    rw [readWord_of_isDigit digit, Option.none_or]
  unfold Binary64.ofText?
  rw [signed]
  cases negative with
  | true => exact number
  | false =>
    rw [if_neg Bool.false_ne_true, List.nil_append]
    split
    next sign cs eq =>
    split at eq
    · next r plus =>
      rw [(List.cons.inj plus).1] at digit
      cases digit
    · next r minus =>
      rw [(List.cons.inj minus).1] at digit
      cases digit
    · cases eq
      exact number

/-- **The text of a finite float** is read as that float, if it is rounded only once. -/
theorem ofText?_text {x : Binary64} (h : Numeric x) :
    Binary64.ofText? (Number.float x).text = some x := by
  cases h with
  | @finite negative units representable small =>
    obtain ⟨body, text, w, written, writes, -⟩ := exists_written representable small negative
    obtain ⟨c, rest, first, digit⟩ := w.exists_text_eq
    have signed : (Number.float (.finite negative units)).text.toList =
        (if negative then ['-'] else []) ++ c :: rest := by
      rw [text, String.toList_append, written, first]
      cases negative <;> rfl
    rw [ofText?_of_sign digit signed, ← first, readMagnitude_written,
      writes.ofDecimal_eq representable small]

/-! ### Read in JSON -/

/-- The text of a float without its sign. -/
theorem exists_magnitude_float {units : Nat} (representable : Representable units)
    (small : units < unitsLimit) (negative : Bool) :
    ∃ body : String,
      (Number.float (.finite negative units)).text = (if negative then "-" else "") ++ body ∧
      ∃ x, ∀ rest, Delimited rest →
        magnitude negative (bytesOf body.toList ++ rest) = .ok (.float x, rest) := by
  obtain ⟨body, text, w, written, writes, scale⟩ := exists_written representable small negative
  have near : (w.exponent.getD 0).natAbs ≤ exponentLimit := writes.near.trans (by decide)
  have ranged : ∃ x, ∀ rest, floatValue negative w.significand w.scale rest =
      .ok (.float x, rest) := by
    rcases scale with low | ⟨pos, eq⟩
    · exact exists_floatValue_of_neg negative w.significand low
    · have significand := writes.significand
      rw [eq, sub_self, Int.toNat_zero, Nat.pow_zero, Nat.mul_one] at significand
      rw [eq, significand, decimalOf, if_neg pos.ne']
      exact exists_floatValue_decimal pos representable small negative
  obtain ⟨x, reads⟩ := ranged
  refine ⟨body, text, x, fun rest ends => ?_⟩
  rw [written, magnitude_written w writes.fits near negative ends]
  exact reads rest


/-- **What a float reads as** once it is written. -/
def reread (x : Binary64) : Binary64 :=
  match value 0 (Utf8.encode (Number.float x).text) with
  | .ok (.number (.float y), _) => y
  | _ => x

theorem startsWithDigit_of_magnitude {negative : Bool} {bytes : Bytes} {result : Number × Bytes}
    (read : magnitude negative bytes = .ok result) : startsWithDigit bytes = true := by
  cases bytes with
  | nil => cases read
  | cons b rest =>
    simp only [magnitude] at read
    split at read
    · next zero =>
      rw [beq_iff_eq.1 zero]
      rfl
    split at read
    · next digit => exact digit
    · cases read

/-- **A finite float** reads back as a float, whatever follows it. -/
theorem value_float {x : Binary64} (h : Numeric x) (depth : Nat) {rest : Bytes}
    (ends : Delimited rest) :
    value depth (bytesOf (Number.float x).text.toList ++ rest) =
      .ok (.number (.float (reread x)), rest) := by
  cases h with
  | @finite negative units representable small =>
    obtain ⟨body, text, y, reads⟩ := exists_magnitude_float representable small negative
    have read : ∀ (depth : Nat) {rest : Bytes}, Delimited rest →
        value depth (bytesOf (Number.float (.finite negative units)).text.toList ++ rest) =
          .ok (.number (.float y), rest) := by
      intro depth rest ends
      have magnitude := reads rest ends
      rw [text, bytesOf_sign, List.append_assoc,
        value_signed depth negative (startsWithDigit_of_magnitude magnitude), magnitude]
      rfl
    -- the same value comes of the text alone, and so of the text before any rest
    have again : reread (.finite negative units) = y := by
      have alone := read 0 delimited_nil
      rw [List.append_nil, ← Utf8.encode_eq] at alone
      rw [reread, alone]
    rw [again]
    exact read depth ends

end MessageIntake.Json
