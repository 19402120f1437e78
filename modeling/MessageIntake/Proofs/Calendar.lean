import Mathlib.Tactic.IntervalCases
import MessageIntake.Calendar
/-!
# Days and their numbers

Four hundred years are taken apart into centuries, rounds of four years, and years, all of which
begin in March. The leap day is then the last of its year, and its year the last of a round that is
not the last of a century, unless the century is the last of the four.

Main statements: the day with a number exists, and has that number (`isValid_ofDayNumber`,
`dayNumber_ofDayNumber`).
-/

namespace MessageIntake.Date

/-- **A day of four hundred years** that begin in March, by centuries, rounds of four years, years,
and days. -/
structure Parts where
  era : Int
  century : Nat
  round : Nat
  year : Nat
  day : Nat
  century_le : century ≤ 3
  round_le : round ≤ 24
  year_le : year ≤ 3
  day_le : day ≤ 365
  leap : day = 365 → year = 3 ∧ (round = 24 → century = 3)

namespace Parts

/-- The year of the four hundred. -/
def yearOfEra (p : Parts) : Nat := 100 * p.century + 4 * p.round + p.year

/-- The day of the four hundred years. -/
def dayOfEra (p : Parts) : Nat := 36524 * p.century + 1461 * p.round + 365 * p.year + p.day

/-- The months from March. -/
def month (p : Parts) : Nat := (5 * p.day + 2) / 153

/-- **The date**; January and February belong to the next year. -/
def date (p : Parts) : Date :=
  let day := p.day - (153 * p.month + 2) / 5 + 1
  if p.month < 10 then ⟨p.era * 400 + p.yearOfEra, p.month + 3, day⟩
  else ⟨p.era * 400 + p.yearOfEra + 1, p.month - 9, day⟩

variable (p : Parts)

theorem yearOfEra_lt : p.yearOfEra < 400 := by
  have := p.century_le
  have := p.round_le
  have := p.year_le
  unfold yearOfEra
  omega

theorem dayOfEra_lt : p.dayOfEra < 146097 := by
  have := p.century_le
  have := p.round_le
  have := p.year_le
  have := p.day_le
  have := p.leap
  unfold dayOfEra
  omega

/-- A year begins after a day for each that is a leap year. -/
theorem dayOfEra_eq :
    p.dayOfEra = p.yearOfEra * 365 + p.yearOfEra / 4 - p.yearOfEra / 100 + p.day := by
  have := p.round_le
  have := p.year_le
  have fourth : p.yearOfEra / 4 = 25 * p.century + p.round := by unfold yearOfEra; omega
  have hundredth : p.yearOfEra / 100 = p.century := by unfold yearOfEra; omega
  rw [fourth, hundredth]
  unfold dayOfEra yearOfEra
  omega

/-- Only the last day of all is one too many for a century. -/
theorem dayOfEra_div_century :
    p.dayOfEra / 36524 = p.century + p.dayOfEra / 146096 := by
  have := p.century_le
  have := p.round_le
  have := p.year_le
  have := p.day_le
  have := p.leap
  have last : p.dayOfEra / 146096 =
      if p.century = 3 ∧ p.round = 24 ∧ p.day = 365 then 1 else 0 := by
    unfold dayOfEra
    split <;> omega
  rw [last]
  unfold dayOfEra
  split <;> omega

/-- To count rounds as a day shorter than they are puts off a leap day to the next. -/
theorem dayOfEra_div_round :
    ∃ later, p.dayOfEra / 1460 = 25 * p.century + p.round + later ∧ later ≤ p.day ∧
      p.day - later < 365 := by
  have := p.century_le
  have := p.round_le
  have := p.year_le
  have := p.day_le
  have := p.leap
  refine ⟨(24 * p.century + p.round + 365 * p.year + p.day) / 1460, ?_, by omega, by omega⟩
  unfold dayOfEra
  omega

/-- **The year of a day**, as it is found. -/
theorem yearOfEra_eq :
    (p.dayOfEra - p.dayOfEra / 1460 + p.dayOfEra / 36524 - p.dayOfEra / 146096) / 365 =
      p.yearOfEra := by
  obtain ⟨later, rounds, le, lt⟩ := p.dayOfEra_div_round
  have years : p.dayOfEra - p.dayOfEra / 1460 + p.dayOfEra / 36524 - p.dayOfEra / 146096 =
      365 * p.yearOfEra + (p.day - later) := by
    rw [p.dayOfEra_div_century, rounds]
    unfold dayOfEra yearOfEra
    omega
  rw [years]
  omega

/-- **Each day of four hundred years** can be taken apart. -/
theorem exists_dayOfEra_eq (era : Int) {d : Nat} (lt : d < 146097) :
    ∃ p : Parts, p.era = era ∧ p.dayOfEra = d := by
  let century := min (d / 36524) 3
  let rest := d - 36524 * century
  let year := min (rest % 1461 / 365) 3
  let p : Parts :=
    { era, century, year
      round := rest / 1461
      day := rest % 1461 - 365 * year
      century_le := by omega
      round_le := by omega
      year_le := by omega
      day_le := by omega
      leap := by omega }
  refine ⟨p, rfl, ?_⟩
  simp only [dayOfEra, p]
  omega

theorem month_le : p.month ≤ 11 := by
  have := p.day_le
  unfold month
  omega

/-- **The number of a date.** -/
theorem dayNumber_date : p.date.dayNumber = p.era * 146097 + p.dayOfEra - 719468 := by
  have lt := p.yearOfEra_lt
  have month_le := p.month_le
  have era : (p.era * 400 + p.yearOfEra).fdiv 400 = p.era := by
    rw [Int.fdiv_eq_ediv_of_nonneg _ (by decide)]
    omega
  have year : p.era * 400 + p.yearOfEra - p.era * 400 = p.yearOfEra := by omega
  have begun : (153 * p.month + 2) / 5 ≤ p.day := by
    unfold month
    omega
  have days := p.dayOfEra_eq
  unfold date
  dsimp only
  split
  · next early =>
    have after : ¬p.month + 3 ≤ 2 := by omega
    simp only [dayNumber, if_neg after, era, year, Nat.add_sub_cancel]
    omega
  · next late =>
    have before : p.month - 9 ≤ 2 := by omega
    have again : p.month - 9 + 9 = p.month := by omega
    simp only [dayNumber, if_pos before, Int.add_sub_cancel, era, year, again]
    omega

/-- **The date of a number.** -/
theorem ofDayNumber_eq : ofDayNumber (p.era * 146097 + p.dayOfEra - 719468) = p.date := by
  have lt := p.dayOfEra_lt
  have month_le := p.month_le
  have era : (p.era * 146097 + p.dayOfEra).fdiv 146097 = p.era := by
    rw [Int.fdiv_eq_ediv_of_nonneg _ (by decide)]
    omega
  have within : (p.era * 146097 + p.dayOfEra - p.era * 146097).toNat = p.dayOfEra := by omega
  have day : p.dayOfEra - (365 * p.yearOfEra + p.yearOfEra / 4 - p.yearOfEra / 100) = p.day := by
    rw [p.dayOfEra_eq]
    omega
  have months : (5 * p.day + 2) / 153 = p.month := rfl
  simp only [ofDayNumber, Int.sub_add_cancel, era, within, p.yearOfEra_eq, day, months, date]
  split
  · rw [if_neg (by omega)]
  · rw [if_pos (by omega)]

/-- A year with a leap day is a leap year. -/
theorem isLeapYear_of_leap (leap : p.day = 365) :
    isLeapYear (p.era * 400 + p.yearOfEra + 1) = true := by
  obtain ⟨year, last⟩ := p.leap leap
  have := p.round_le
  have := p.century_le
  simp only [isLeapYear, yearOfEra, Bool.and_eq_true, Bool.or_eq_true, beq_iff_eq, bne_iff_ne]
  omega

/-- The months from March to December have their days between two multiples of `153 / 5`. -/
theorem monthLength_eq (year : Int) {month : Nat} (lt : month < 10) :
    monthLength year (month + 3) + (153 * month + 2) / 5 = (153 * (month + 1) + 2) / 5 := by
  interval_cases month
  all_goals rfl

/-- **A date exists.** -/
theorem isValid_date : p.date.isValid = true := by
  have day_le := p.day_le
  have month : p.month = (5 * p.day + 2) / 153 := rfl
  have month_le := p.month_le
  unfold date
  split
  · next early =>
    have length := monthLength_eq (p.era * 400 + p.yearOfEra) early
    simp only [isValid, Bool.and_eq_true, decide_eq_true_eq]
    omega
  next late =>
  simp only [isValid, Bool.and_eq_true, decide_eq_true_eq]
  rcases (by omega : p.month = 10 ∨ p.month = 11) with january | february
  · have length : monthLength (p.era * 400 + p.yearOfEra + 1) (p.month - 9) = 31 := by
      rw [january]
      rfl
    omega
  · have length : monthLength (p.era * 400 + p.yearOfEra + 1) (p.month - 9) =
        if isLeapYear (p.era * 400 + p.yearOfEra + 1) then 29 else 28 := by
      rw [february]
      rfl
    by_cases leap : p.day = 365
    · rw [p.isLeapYear_of_leap leap, if_pos rfl] at length
      omega
    · split at length
      all_goals omega

end Parts

/-- **Every number is that of a day**, taken apart. -/
theorem exists_parts (n : Int) : ∃ p : Parts, n = p.era * 146097 + p.dayOfEra - 719468 := by
  have nonneg := Int.emod_nonneg (n + 719468) (show (146097 : Int) ≠ 0 by decide)
  have lt := Int.emod_lt_of_pos (n + 719468) (show (0 : Int) < 146097 by decide)
  obtain ⟨p, era, day⟩ := Parts.exists_dayOfEra_eq ((n + 719468) / 146097)
    (d := ((n + 719468) % 146097).toNat) (by omega)
  exact ⟨p, by omega⟩

/-- **The number of the day with a number.** -/
theorem dayNumber_ofDayNumber (n : Int) : (ofDayNumber n).dayNumber = n := by
  obtain ⟨p, rfl⟩ := exists_parts n
  rw [p.ofDayNumber_eq, p.dayNumber_date]

/-- **The day with a number** exists. -/
theorem isValid_ofDayNumber (n : Int) : (ofDayNumber n).isValid = true := by
  obtain ⟨p, rfl⟩ := exists_parts n
  rw [p.ofDayNumber_eq, p.isValid_date]

end MessageIntake.Date
