import Mathlib

/-!
Contract: the proleptic Gregorian calendar.

A date is a year, a month and a day that exist together; its ordinal counts the
days from the first day of year one, which is day one.

Owns: positions in consecutive blocks, leap years, ordinals, and the date of
every ordinal.

Does not own: times of day, time zones, or a last year.
-/

namespace AutoRouteGateway.Library

/-! ## Consecutive blocks -/

/-- The block a position falls into, and the position within it. -/
def locate : List Nat → Nat → Nat × Nat
  | [], position => (0, position)
  | length :: rest, position =>
      if position < length then (0, position)
      else
        let later := locate rest (position - length)
        (later.1 + 1, later.2)

theorem locate_spec {lengths : List Nat} {position : Nat} (inside : position < lengths.sum) :
    ∃ length, lengths[(locate lengths position).1]? = some length ∧
      (locate lengths position).2 < length ∧
      (lengths.take (locate lengths position).1).sum + (locate lengths position).2 =
        position := by
  induction lengths generalizing position with
  | nil => cases inside
  | cons length rest inductionHypothesis =>
      rw [List.sum_cons] at inside
      unfold locate
      split_ifs with first
      · exact ⟨length, rfl, first, by simp⟩
      · have later : position - length < rest.sum := by omega
        obtain ⟨own, found, within, whole⟩ := inductionHypothesis later
        refine ⟨own, found, within, ?_⟩
        rw [List.take_succ_cons, List.sum_cons]
        dsimp only
        omega

/-! ## Years and months -/

def isLeap (year : Nat) : Bool := year % 4 = 0 ∧ (year % 100 ≠ 0 ∨ year % 400 = 0)

def monthLengths (leap : Bool) : List Nat :=
  [31, if leap then 29 else 28, 31, 30, 31, 30, 31, 31, 30, 31, 30, 31]

/-- The days of the years before. -/
def daysBeforeYear (year : Nat) : Nat :=
  365 * (year - 1) + (year - 1) / 4 - (year - 1) / 100 + (year - 1) / 400

theorem sum_monthLengths (leap : Bool) :
    (monthLengths leap).sum = if leap then 366 else 365 := by
  cases leap <;> rfl

/-- A year, a month and a day that exist. -/
structure CivilDate where
  year : Nat
  month : Nat
  day : Nat
  yearStarts : 1 ≤ year
  monthStarts : 1 ≤ month
  dayStarts : 1 ≤ day
  exists_day : ∃ length, (monthLengths (isLeap year))[month - 1]? = some length ∧ day ≤ length

namespace CivilDate

theorem month_le (date : CivilDate) : date.month ≤ 12 := by
  obtain ⟨length, found, -⟩ := date.exists_day
  obtain ⟨within, -⟩ := List.getElem?_eq_some_iff.mp found
  have whole : (monthLengths (isLeap date.year)).length = 12 := rfl
  have starts := date.monthStarts
  omega

theorem day_le (date : CivilDate) : date.day ≤ 31 := by
  obtain ⟨length, found, within⟩ := date.exists_day
  have short : ∀ leap, ∀ length ∈ monthLengths leap, length ≤ 31 := by decide
  exact Nat.le_trans within (short _ length (List.mem_of_getElem? found))

/-- The date of three numbers, if it exists. -/
def make? (year month day : Nat) : Option CivilDate :=
  match isMonth : (monthLengths (isLeap year))[month - 1]? with
  | none => none
  | some length =>
      if valid : 1 ≤ year ∧ 1 ≤ month ∧ 1 ≤ day ∧ day ≤ length then
        some ⟨year, month, day, valid.1, valid.2.1, valid.2.2.1, length, isMonth, valid.2.2.2⟩
      else none

theorem make?_self (date : CivilDate) : make? date.year date.month date.day = some date := by
  obtain ⟨length, found, within⟩ := date.exists_day
  unfold make?
  split
  · rename_i noMonth
    rw [found] at noMonth
    cases noMonth
  · rename_i own isMonth
    rw [found] at isMonth
    cases isMonth
    rw [dif_pos ⟨date.yearStarts, date.monthStarts, date.dayStarts, within⟩]

/-- The number of the day, from the first day of year one. -/
def ordinal (date : CivilDate) : Nat :=
  daysBeforeYear date.year +
    ((monthLengths (isLeap date.year)).take (date.month - 1)).sum + date.day

end CivilDate

/-! ## The date of an ordinal -/

/-- The year a day falls into, and the day within it, both counted from zero:
by cycles of 400, 100, 4 and single years, of which the last ones are longer. -/
def yearAndDay (day : Nat) : Nat × Nat :=
  let inCycle := day % 146097
  let centuries := min (inCycle / 36524) 3
  let inCentury := inCycle - 36524 * centuries
  let inFour := inCentury % 1461
  let years := min (inFour / 365) 3
  (400 * (day / 146097) + 100 * centuries + 4 * (inCentury / 1461) + years, inFour - 365 * years)

/-- The leap years are the fourth ones, but among those that end a century only
every fourth. -/
theorem isLeap_iff {cycle century four year : Nat} (centuries : century ≤ 3) (fours : four ≤ 24)
    (years : year ≤ 3) :
    isLeap (400 * cycle + 100 * century + 4 * four + year + 1) = true ↔
      year = 3 ∧ (four = 24 → century = 3) := by
  unfold isLeap
  rw [decide_eq_true_iff]
  omega

theorem daysBeforeYear_eq {cycle century four year : Nat} (centuries : century ≤ 3)
    (fours : four ≤ 24) (years : year ≤ 3) :
    daysBeforeYear (400 * cycle + 100 * century + 4 * four + year + 1) =
      146097 * cycle + 36524 * century + 1461 * four + 365 * year := by
  unfold daysBeforeYear
  omega

/-- The cycles a day falls into, and the day left in its year, which is the last
day of a leap year only in the last year of its cycles. -/
theorem yearAndDay_parts (day : Nat) :
    ∃ cycle century four year, century ≤ 3 ∧ four ≤ 24 ∧ year ≤ 3 ∧
      (yearAndDay day).1 = 400 * cycle + 100 * century + 4 * four + year ∧
      146097 * cycle + 36524 * century + 1461 * four + 365 * year + (yearAndDay day).2 = day ∧
      (yearAndDay day).2 < 366 ∧
      (¬ (year = 3 ∧ (four = 24 → century = 3)) → (yearAndDay day).2 < 365) := by
  have inCycle := Nat.mod_lt day (y := 146097) (by decide)
  have cycles := Nat.div_add_mod day 146097
  let rest := day % 146097
  let century := min (rest / 36524) 3
  have inCentury : 36524 * century ≤ rest ∧ rest - 36524 * century < 36525 ∧
      (century < 3 → rest - 36524 * century < 36524) := by omega
  let four := (rest - 36524 * century) / 1461
  have inFour := Nat.mod_lt (rest - 36524 * century) (y := 1461) (by decide)
  have fours := Nat.div_add_mod (rest - 36524 * century) 1461
  let left := (rest - 36524 * century) % 1461
  let year := min (left / 365) 3
  have inYear : 365 * year ≤ left ∧ left - 365 * year < 366 ∧
      (year < 3 → left - 365 * year < 365) := by omega
  have isDay : (yearAndDay day).2 = left - 365 * year := rfl
  have centuries : century ≤ 3 := Nat.min_le_right _ _
  have years : year ≤ 3 := Nat.min_le_right _ _
  have foursBound : four ≤ 24 := by omega
  refine ⟨day / 146097, century, four, year, centuries, foursBound, years, rfl, ?_, ?_, ?_⟩
  · omega
  · omega
  · omega

theorem yearAndDay_spec (day : Nat) :
    daysBeforeYear ((yearAndDay day).1 + 1) + (yearAndDay day).2 = day ∧
      (yearAndDay day).2 < if isLeap ((yearAndDay day).1 + 1) then 366 else 365 := by
  obtain ⟨cycle, century, four, year, centuries, fours, years, isYear, whole, inYear, short⟩ :=
    yearAndDay_parts day
  rw [isYear, daysBeforeYear_eq centuries fours years]
  refine ⟨whole, ?_⟩
  have leap :
      isLeap (400 * cycle + 100 * century + 4 * four + year + 1) = true ↔
        year = 3 ∧ (four = 24 → century = 3) :=
    isLeap_iff centuries fours years
  split_ifs with isLeapYear
  · exact inYear
  · exact short (mt leap.mpr isLeapYear)

/-- The date of a day counted from zero. -/
def dateOfDay (day : Nat) : CivilDate :=
  let inYear := yearAndDay day
  let inMonth := locate (monthLengths (isLeap (inYear.1 + 1))) inYear.2
  { year := inYear.1 + 1
    month := inMonth.1 + 1
    day := inMonth.2 + 1
    yearStarts := Nat.le_add_left 1 _
    monthStarts := Nat.le_add_left 1 _
    dayStarts := Nat.le_add_left 1 _
    exists_day := by
      obtain ⟨-, within⟩ := yearAndDay_spec day
      rw [← sum_monthLengths] at within
      obtain ⟨length, found, inside, -⟩ := locate_spec within
      exact ⟨length, found, inside⟩ }

/-- The date of a day has the ordinal of the day. -/
theorem ordinal_dateOfDay (day : Nat) : (dateOfDay day).ordinal = day + 1 := by
  obtain ⟨whole, within⟩ := yearAndDay_spec day
  rw [← sum_monthLengths] at within
  obtain ⟨length, -, -, inMonth⟩ := locate_spec within
  change daysBeforeYear ((yearAndDay day).1 + 1) +
    ((monthLengths (isLeap ((yearAndDay day).1 + 1))).take
      (locate (monthLengths (isLeap ((yearAndDay day).1 + 1))) (yearAndDay day).2).1).sum +
    ((locate (monthLengths (isLeap ((yearAndDay day).1 + 1))) (yearAndDay day).2).2 + 1) = day + 1
  omega

theorem daysBeforeYear_mono : Monotone daysBeforeYear := by
  apply monotone_nat_of_le_succ
  intro year
  unfold daysBeforeYear
  omega

/-- A day before the end of a year is in no later year. -/
theorem year_dateOfDay_le {day lastYear : Nat} (within : day < daysBeforeYear (lastYear + 1)) :
    (dateOfDay day).year ≤ lastYear := by
  obtain ⟨whole, -⟩ := yearAndDay_spec day
  by_contra later
  have before := daysBeforeYear_mono (Nat.lt_of_not_le later)
  change daysBeforeYear (lastYear + 1) ≤ daysBeforeYear ((yearAndDay day).1 + 1) at before
  omega

end AutoRouteGateway.Library
