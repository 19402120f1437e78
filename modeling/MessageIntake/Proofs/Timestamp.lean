import MessageIntake.Proofs.Calendar
import MessageIntake.Proofs.Json.Numbers
import MessageIntake.Timestamp.Reading
/-!
# Instants read back

The text of an instant has its parts in digits that are padded to a width of their own, so that the
reader takes off one part after the other.

Main statement: an instant in a year of four digits reads back from its text (`ofText?_text`).
-/

namespace MessageIntake.Timestamp

open Utf8 (bytesOf)

/-! ### Digits -/

/-- The byte of a digit has its value. -/
theorem digitValue?_of_isDigit {c : Char} (digit : c.isDigit = true) :
    ∃ b, String.utf8EncodeChar c = [b] ∧ digitValue? b = some (c.toNat - '0'.toNat) ∧
      b.toNat - 0x30 = c.toNat - '0'.toNat := by
  obtain ⟨b, bytes, isDigit, value, -⟩ := Json.utf8EncodeChar_of_isDigit digit
  have found : digitValue? b = some (b.toNat - 0x30) := if_pos isDigit
  exact ⟨b, bytes, found.trans (congrArg some value), value⟩

/-- **Digits are read** as the number that they write. -/
theorem digits_bytesOf {ds : List Char} (digits : ∀ c ∈ ds, c.isDigit = true) (n : Nat)
    (rest : Bytes) :
    Timestamp.digits ds.length n (bytesOf ds ++ rest) = .ok (Nat.ofDigitChars 10 ds n, rest) := by
  induction ds generalizing n with
  | nil => rfl
  | cons c ds ih =>
    obtain ⟨b, bytes, value, -⟩ := digitValue?_of_isDigit (digits c List.mem_cons_self)
    rw [Utf8.bytesOf_cons, bytes, List.singleton_append, List.cons_append, List.length_cons,
      Timestamp.digits, value, Nat.ofDigitChars_cons, Nat.mul_comm n]
    exact ih (fun c mem => digits c (List.mem_cons_of_mem _ mem)) _

/-- The digits of a padded number. -/
theorem toList_padded {width n : Nat} (pos : 0 < width) (lt : n < Nat.pow 10 width) :
    (padded width n).toList.length = width ∧ (∀ c ∈ (padded width n).toList, c.isDigit = true) ∧
      Nat.ofDigitChars 10 (padded width n).toList 0 = n := by
  have short : (Nat.toDigits 10 n).length ≤ width :=
    (Nat.length_toDigits_le_iff (by decide) pos).2 lt
  rw [padded, String.toList_ofList]
  refine ⟨by simp; omega, fun c mem => ?_, ?_⟩
  · rcases List.mem_append.1 mem with zero | digit
    · rw [List.eq_of_mem_replicate zero]
      rfl
    · exact Nat.isDigit_of_mem_toDigits (by decide) (by decide) digit
  · rw [Nat.ofDigitChars_append, Nat.ofDigitChars_replicate_zero, Nat.mul_zero,
      Nat.ofDigitChars_ten_toDigits]

/-- **A padded number** is read back. -/
theorem digits_padded {width n : Nat} (pos : 0 < width) (lt : n < Nat.pow 10 width)
    (rest : Bytes) :
    digits width 0 (bytesOf (padded width n).toList ++ rest) = .ok (n, rest) := by
  obtain ⟨length, isDigit, value⟩ := toList_padded pos lt
  have read := digits_bytesOf isDigit 0 rest
  rwa [length, value] at read

/-! ### The fraction of a second -/

/-- The bytes of digits. -/
theorem bytesOf_digits {ds : List Char} (isDigit : ∀ c ∈ ds, c.isDigit = true) :
    (bytesOf ds).length = ds.length ∧ (∀ b ∈ bytesOf ds, (digitValue? b).isSome = true) ∧
      ∀ n, (bytesOf ds).foldl (fun n b => n * 10 + (b.toNat - 0x30)) n =
        Nat.ofDigitChars 10 ds n := by
  induction ds with
  | nil => exact ⟨rfl, nofun, fun _ => rfl⟩
  | cons c ds ih =>
    obtain ⟨b, bytes, digit, value⟩ := digitValue?_of_isDigit (isDigit c List.mem_cons_self)
    obtain ⟨length, digits, number⟩ := ih fun c mem => isDigit c (List.mem_cons_of_mem _ mem)
    rw [Utf8.bytesOf_cons, bytes, List.singleton_append]
    refine ⟨congrArg (· + 1) length, List.forall_mem_cons.2 ⟨by rw [digit]; rfl, digits⟩,
      fun n => ?_⟩
    rw [List.foldl_cons, value, number, Nat.ofDigitChars_cons, Nat.mul_comm]

/-- **A fraction is read** with zeros for the digits that it leaves out. -/
theorem fraction_padded {width n : Nat} (pos : 0 < width) (le : width ≤ 9)
    (lt : n < Nat.pow 10 width) (rest : Bytes) :
    fraction (bytesOf (padded width n).toList ++ 0x5a :: rest) =
      .ok (n * Nat.pow 10 (9 - width), 0x5a :: rest) := by
  obtain ⟨length, isDigit, value⟩ := toList_padded pos lt
  obtain ⟨length', digits, number⟩ := bytesOf_digits isDigit
  generalize bytesOf (padded width n).toList = bytes at length' digits number ⊢
  rw [length] at length'
  have taken : (bytes ++ 0x5a :: rest).takeWhile (fun b => (digitValue? b).isSome) = bytes := by
    rw [List.takeWhile_append_of_pos digits, List.takeWhile_cons_of_neg (by decide),
      List.append_nil]
  have left : (bytes ++ 0x5a :: rest).dropWhile (fun b => (digitValue? b).isSome) =
      0x5a :: rest := by
    rw [List.dropWhile_append_of_pos digits, List.dropWhile_cons_of_neg (by decide)]
  have all : bytes.take 9 = bytes := List.take_of_length_le (length' ▸ le)
  cases bytes with
  | nil => exact absurd length' (Nat.ne_of_lt pos)
  | cons b bytes =>
    simp only [fraction, taken, left, all, number, value, length']

/-- **The fraction of a second** is read back. -/
theorem optionalFraction_fractionText {nanos : Nat} (lt : nanos < nanosPerSecond) (rest : Bytes) :
    optionalFraction (bytesOf (fractionText nanos).toList ++ 0x5a :: rest) =
      .ok (nanos, 0x5a :: rest) := by
  have read : ∀ {width unit : Nat}, 0 < width → width ≤ 9 → unit = Nat.pow 10 (9 - width) →
      nanosPerSecond = unit * Nat.pow 10 width → nanos % unit = 0 →
      optionalFraction (bytesOf ("." ++ padded width (nanos / unit)).toList ++ 0x5a :: rest) =
        .ok (nanos, 0x5a :: rest) := by
    intro width unit pos le zeros parts whole
    rw [parts] at lt
    have point : bytesOf ".".toList = [0x2e] := rfl
    rw [String.toList_append, Utf8.bytesOf_append, point, List.append_assoc,
      List.singleton_append, optionalFraction,
      fraction_padded pos le (Nat.div_lt_of_lt_mul lt) rest, ← zeros,
      Nat.div_mul_cancel (Nat.dvd_of_mod_eq_zero whole)]
  unfold fractionText
  split
  · next zero =>
    rw [beq_iff_eq.1 zero]
    rfl
  split
  · next millis => exact read (by decide) (by decide) rfl rfl (beq_iff_eq.1 millis)
  split
  · next micros => exact read (by decide) (by decide) rfl rfl (beq_iff_eq.1 micros)
  · have all := @read 9 1 (by decide) (by decide) rfl rfl (Nat.mod_one _)
    rwa [Nat.div_one] at all

/-! ### The whole text -/

theorem length_padded {width n : Nat} (pos : 0 < width) (lt : n < Nat.pow 10 width) :
    (bytesOf (padded width n).toList).length = width := by
  obtain ⟨length, isDigit, -⟩ := toList_padded pos lt
  exact (bytesOf_digits isDigit).1.trans length

/-- A day that exists has a month and a day of two digits. -/
theorem two_digits_of_isValid {d : Date} (valid : d.isValid = true) :
    d.month < 100 ∧ d.day < 100 := by
  have le : Date.monthLength d.year d.month ≤ 31 := by
    unfold Date.monthLength
    split
    · split <;> decide
    · split <;> decide
  simp only [Date.isValid, Bool.and_eq_true, decide_eq_true_eq] at valid
  omega

/-- **The parts of a text are read** one after the other. -/
theorem ofBytes?_parts {year month day hour minute second nanos : Nat}
    (year_lt : year < 10000) (valid : Date.isValid ⟨year, month, day⟩ = true)
    (hour_lt : hour < 24) (minute_lt : minute < 60) (second_le : second ≤ 60)
    (nanos_lt : nanos < nanosPerSecond) :
    ofBytes? (bytesOf (padded 4 year).toList ++ 0x2d :: (bytesOf (padded 2 month).toList ++
      0x2d :: (bytesOf (padded 2 day).toList ++ 0x54 :: (bytesOf (padded 2 hour).toList ++
      0x3a :: (bytesOf (padded 2 minute).toList ++ 0x3a :: (bytesOf (padded 2 second).toList ++
      (bytesOf (fractionText nanos).toList ++ [0x5a]))))))) =
      .ok {
        seconds := Date.dayNumber ⟨year, month, day⟩ * 86400 +
          ((hour * 3600 + minute * 60 + if second = 60 then 59 else second : Nat) : Int)
        nanos := nanos + if second = 60 then nanosPerSecond else 0 } := by
  obtain ⟨month_lt, day_lt⟩ := two_digits_of_isValid valid
  have hour_lt' : hour < 100 := by omega
  have minute_lt' : minute < 100 := by omega
  have second_lt : second < 100 := by omega
  have two : ∀ {n}, n < 100 → (bytesOf (padded 2 n).toList).length = 2 ∧
      ∀ rest, digits 2 0 (bytesOf (padded 2 n).toList ++ rest) = .ok (n, rest) :=
    fun lt => ⟨length_padded (by decide) lt, digits_padded (by decide) lt⟩
  have four : (bytesOf (padded 4 year).toList).length = 4 := length_padded (by decide) year_lt
  have next : ∀ {α β : Type} (a : α) (f : α → Except Fault β), (Except.ok a >>= f) = f a :=
    fun _ _ => rfl
  have marked : ∀ b rest, mark [b] (b :: rest) = .ok rest := fun b rest => by simp [mark]
  have letter : ∀ rest, mark [0x54, 0x74, 0x20] (0x54 :: rest) = .ok rest := fun _ => rfl
  have zulu : offset [0x5a] = .ok (0, []) := rfl
  have inRange : (decide (hour ≥ 24) || decide (minute ≥ 60) || decide (second > 60)) = false := by
    simp only [Bool.or_eq_false_iff, decide_eq_false_iff_not]
    omega
  rw [ofBytes?, if_neg, digits_padded (by decide) year_lt]
  · simp only [next, marked, letter, (two month_lt).2, (two day_lt).2, (two hour_lt').2,
      (two minute_lt').2, (two second_lt).2, optionalFraction_fractionText nanos_lt, valid, zulu,
      inRange, Bool.not_true, Bool.false_eq_true, if_false, List.isEmpty_nil, beq_iff_eq,
      Int.sub_zero]
    rfl
  · simp only [List.length_append, List.length_cons, (two month_lt).1, (two day_lt).1,
      (two hour_lt').1, (two minute_lt').1, (two second_lt).1, four]
    omega

/-- **An instant is ordinary** if its year has four digits, and if it is within a second, or within
a leap second at the end of a minute. -/
structure Ordinary (t : Timestamp) : Prop where
  year : 0 ≤ t.year ∧ t.year ≤ 9999
  nanos : t.nanos < nanosPerSecond ∨ t.nanos < 2 * nanosPerSecond ∧ t.seconds % 60 = 59

/-- The bytes of the text of an ordinary instant. -/
theorem encode_text {t : Timestamp} (h : t.Ordinary) :
    let second := (t.seconds.fmod 86400).toNat
    Utf8.encode t.text = bytesOf (padded 4 t.year.toNat).toList ++ 0x2d ::
      (bytesOf (padded 2 t.date.month).toList ++ 0x2d :: (bytesOf (padded 2 t.date.day).toList ++
      0x54 :: (bytesOf (padded 2 (second / 3600)).toList ++
      0x3a :: (bytesOf (padded 2 (second / 60 % 60)).toList ++
      0x3a :: (bytesOf (padded 2 (second % 60 + t.nanos / nanosPerSecond)).toList ++
      (bytesOf (fractionText (t.nanos % nanosPerSecond)).toList ++ [0x5a])))))) := by
  intro second
  have four : (decide (0 ≤ t.year) && decide (t.year ≤ 9999)) = true := by
    simpa only [Bool.and_eq_true, decide_eq_true_eq] using h.year
  have year : yearText t.date.year = padded 4 t.year.toNat := if_pos four
  have dash : bytesOf "-".toList = [0x2d] := rfl
  have letter : bytesOf "T".toList = [0x54] := rfl
  have colon : bytesOf ":".toList = [0x3a] := rfl
  have zulu : bytesOf "Z".toList = [0x5a] := rfl
  simp only [Utf8.encode_eq, text, year, String.toList_append, Utf8.bytesOf_append, dash, letter,
    colon, zulu, List.append_assoc, List.singleton_append]
  rfl

/-- **An instant reads back** from its text. -/
theorem ofText?_text {t : Timestamp} (h : t.Ordinary) : ofText? t.text = .ok t := by
  have valid : Date.isValid ⟨t.year.toNat, t.date.month, t.date.day⟩ = true := by
    rw [Int.toNat_of_nonneg h.year.1]
    exact Date.isValid_ofDayNumber _
  have number : Date.dayNumber ⟨t.year.toNat, t.date.month, t.date.day⟩ =
      t.seconds.fdiv 86400 := by
    rw [Int.toNat_of_nonneg h.year.1]
    exact Date.dayNumber_ofDayNumber _
  have year_lt : t.year.toNat < 10000 := by
    have := h.year
    omega
  have day := Int.fdiv_eq_ediv_of_nonneg t.seconds (show (0 : Int) ≤ 86400 by decide)
  have second := Int.fmod_eq_emod_of_nonneg t.seconds (show (0 : Int) ≤ 86400 by decide)
  -- second sixty is written just for a leap second
  have leap : (t.seconds.fmod 86400).toNat % 60 + t.nanos / nanosPerSecond = 60 ↔
      nanosPerSecond ≤ t.nanos := by
    have nanos := h.nanos
    simp only [nanosPerSecond] at *
    omega
  have bound : (t.seconds.fmod 86400).toNat % 60 + t.nanos / nanosPerSecond ≤ 60 := by
    have nanos := h.nanos
    simp only [nanosPerSecond] at *
    omega
  rw [ofText?, encode_text h, ofBytes?_parts year_lt valid (by omega) (by omega) bound
    (Nat.mod_lt _ (by decide)), number]
  have same : ∀ {seconds nanos}, seconds = t.seconds → nanos = t.nanos →
      Timestamp.mk seconds nanos = t := by
    rintro _ _ rfl rfl
    rfl
  have nanos := h.nanos
  by_cases late : nanosPerSecond ≤ t.nanos
  · rw [if_pos (leap.2 late), if_pos (leap.2 late)]
    simp only [nanosPerSecond] at *
    exact congrArg Except.ok (same (by omega) (by omega))
  · rw [if_neg (mt leap.1 late), if_neg (mt leap.1 late)]
    simp only [nanosPerSecond] at *
    exact congrArg Except.ok (same (by omega) (by omega))

end MessageIntake.Timestamp
