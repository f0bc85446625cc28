import AutoRouteGateway.Domain.State
import AutoRouteGateway.Library.Calendar
import AutoRouteGateway.Runtime.JsonText

/-!
Owns moments in UTC as `datetime` holds them, the instants they stand for, and
the text that `isoformat` writes and `fromisoformat` reads.

An instant counts from the start of 1970. Of the texts that `fromisoformat`
reads, those are modelled that `isoformat` writes of a moment in UTC.
-/

namespace AutoRouteGateway.Runtime

open AutoRouteGateway.Domain
open AutoRouteGateway.Library

/-! ## Numbers of a fixed width -/

/-- The last digits of a number, padded with zeros. -/
def padded : Nat → Nat → List Char
  | 0, _ => []
  | width + 1, value => padded width (value / 10) ++ [(value % 10).digitChar]

/-- The number that the first characters are the digits of, and the rest. -/
def readPadded (width : Nat) (chars : List Char) : Option (Nat × List Char) :=
  let digits := chars.take width
  if digits.length = width ∧ digits.all Char.isDigit = true then
    some (Nat.ofDigitChars 10 digits 0, chars.drop width)
  else none

theorem length_padded (width value : Nat) : (padded width value).length = width := by
  induction width generalizing value with
  | zero => rfl
  | succ width inductionHypothesis =>
      rw [padded, List.length_append, inductionHypothesis, List.length_singleton]

theorem all_isDigit_padded (width value : Nat) : (padded width value).all Char.isDigit = true := by
  induction width generalizing value with
  | zero => rfl
  | succ width inductionHypothesis =>
      have digit : (value % 10).digitChar.isDigit = true := by
        rw [Nat.isDigit_digitChar]
        exact decide_eq_true (Nat.mod_lt value (by decide))
      simp [padded, inductionHypothesis, digit]

theorem ofDigitChars_padded {width value : Nat} (fits : value < 10 ^ width) :
    Nat.ofDigitChars 10 (padded width value) 0 = value := by
  induction width generalizing value with
  | zero =>
      rw [Nat.pow_zero, Nat.lt_one_iff] at fits
      rw [fits]
      rfl
  | succ width inductionHypothesis =>
      have front : value / 10 < 10 ^ width := by
        rw [Nat.pow_succ] at fits
        exact Nat.div_lt_of_lt_mul (by omega)
      rw [padded, Nat.ofDigitChars_append, inductionHypothesis front,
        Nat.ofDigitChars_cons_digitChar_of_lt_ten (Nat.mod_lt value (by decide)),
        Nat.ofDigitChars_nil]
      omega

theorem readPadded_padded {width value : Nat} (fits : value < 10 ^ width) (rest : List Char) :
    readPadded width (padded width value ++ rest) = some (value, rest) := by
  have front : (padded width value ++ rest).take width = padded width value :=
    List.take_left' (length_padded width value)
  have back : (padded width value ++ rest).drop width = rest :=
    List.drop_left' (length_padded width value)
  unfold readPadded
  rw [front, back, if_pos ⟨length_padded width value, all_isDigit_padded width value⟩,
    ofDigitChars_padded fits]

/-! ## Moments -/

/-- A moment in UTC. -/
structure DateTime where
  date : CivilDate
  hour : Nat
  minute : Nat
  second : Nat
  microsecond : Nat
  yearEnds : date.year ≤ 9999
  hourEnds : hour < 24
  minuteEnds : minute < 60
  secondEnds : second < 60
  microsecondEnds : microsecond < 1000000

namespace DateTime

/-- The microseconds from the start of year one to the start of 1970. -/
def epoch : Nat := 719162 * 86400000000

/-- The microseconds from the start of year one to the end of 9999. -/
def lastMoment : Nat := 3652059 * 86400000000

example : 3652059 = daysBeforeYear 10000 ∧ 719163 = (dateOfDay 719162).ordinal := by decide

/-- The microseconds since the start of year one. -/
def elapsed (moment : DateTime) : Nat :=
  ((((moment.date.ordinal - 1) * 24 + moment.hour) * 60 + moment.minute) * 60 + moment.second) *
    1000000 + moment.microsecond

def ofElapsed (elapsed : Nat) (within : elapsed < lastMoment) : DateTime where
  date := dateOfDay (elapsed / 1000000 / 60 / 60 / 24)
  hour := elapsed / 1000000 / 60 / 60 % 24
  minute := elapsed / 1000000 / 60 % 60
  second := elapsed / 1000000 % 60
  microsecond := elapsed % 1000000
  yearEnds := by
    have ends : elapsed < 3652059 * 86400000000 := within
    apply year_dateOfDay_le
    change _ < 3652059
    omega
  hourEnds := Nat.mod_lt _ (by decide)
  minuteEnds := Nat.mod_lt _ (by decide)
  secondEnds := Nat.mod_lt _ (by decide)
  microsecondEnds := Nat.mod_lt _ (by decide)

theorem elapsed_ofElapsed {microseconds : Nat} (within : microseconds < lastMoment) :
    (ofElapsed microseconds within).elapsed = microseconds := by
  unfold elapsed ofElapsed
  rw [ordinal_dateOfDay]
  dsimp only
  omega

/-- The instant lies in the years one to 9999. -/
def Representable (instant : Instant) : Prop :=
  0 ≤ instant + (epoch : Int) ∧ (instant + (epoch : Int)).toNat < lastMoment

instance (instant : Instant) : Decidable (Representable instant) :=
  inferInstanceAs (Decidable (_ ∧ _))

def toInstant (moment : DateTime) : Instant := (moment.elapsed : Int) - (epoch : Int)

/-- The moment of an instant, if there is one. -/
def ofInstant? (instant : Instant) : Option DateTime :=
  if within : Representable instant then
    some (ofElapsed (instant + (epoch : Int)).toNat within.2)
  else none

theorem ofInstant?_eq_some {instant : Instant} (within : Representable instant) :
    ∃ moment, ofInstant? instant = some moment ∧ moment.toInstant = instant := by
  refine ⟨_, dif_pos within, ?_⟩
  rw [toInstant, elapsed_ofElapsed, Int.toNat_of_nonneg within.1]
  exact Int.add_sub_cancel instant epoch

/-! ## Texts -/

def fractionText (microsecond : Nat) : List Char :=
  if microsecond = 0 then [] else '.' :: padded 6 microsecond

/-- `moment.isoformat()`. -/
def isoformat (moment : DateTime) : String :=
  String.ofList (padded 4 moment.date.year ++ '-' :: (padded 2 moment.date.month ++
    '-' :: (padded 2 moment.date.day ++ 'T' :: (padded 2 moment.hour ++
    ':' :: (padded 2 moment.minute ++ ':' :: (padded 2 moment.second ++
    (fractionText moment.microsecond ++ "+00:00".toList)))))))

def make? (date : CivilDate) (hour minute second microsecond : Nat) : Option DateTime :=
  if valid : date.year ≤ 9999 ∧ hour < 24 ∧ minute < 60 ∧ second < 60 ∧ microsecond < 1000000 then
    some ⟨date, hour, minute, second, microsecond, valid.1, valid.2.1, valid.2.2.1, valid.2.2.2.1,
      valid.2.2.2.2⟩
  else none

/-- A number after a mark. -/
def readAfter (mark : Char) (width : Nat) (chars : List Char) : Option (Nat × List Char) :=
  (afterWord [mark] chars).bind (readPadded width)

def readFraction (chars : List Char) : Option (Nat × List Char) :=
  match afterWord ['.'] chars with
  | some rest => readPadded 6 rest
  | none => some (0, chars)

/-- `datetime.fromisoformat(text)`, of a text in UTC. -/
def fromIsoformat (text : String) : Option DateTime := do
  let (year, rest) ← readPadded 4 text.toList
  let (month, rest) ← readAfter '-' 2 rest
  let (day, rest) ← readAfter '-' 2 rest
  let (hour, rest) ← readAfter 'T' 2 rest
  let (minute, rest) ← readAfter ':' 2 rest
  let (second, rest) ← readAfter ':' 2 rest
  let (microsecond, rest) ← readFraction rest
  if rest = "+00:00".toList then
    let date ← CivilDate.make? year month day
    make? date hour minute second microsecond
  else none

theorem readAfter_padded {mark : Char} {width value : Nat} (fits : value < 10 ^ width)
    (rest : List Char) : readAfter mark width (mark :: (padded width value ++ rest)) =
      some (value, rest) := by
  have after : afterWord [mark] (mark :: (padded width value ++ rest)) =
      some (padded width value ++ rest) := by
    simp [afterWord]
  rw [readAfter, after, Option.bind_some, readPadded_padded fits]

theorem readFraction_fractionText {microsecond : Nat} (fits : microsecond < 1000000) :
    readFraction (fractionText microsecond ++ "+00:00".toList) =
      some (microsecond, "+00:00".toList) := by
  unfold fractionText
  split_ifs with whole
  · rw [whole]
    rfl
  · have after : afterWord ['.'] ('.' :: padded 6 microsecond ++ "+00:00".toList) =
        some (padded 6 microsecond ++ "+00:00".toList) := by
      simp [afterWord]
    rw [readFraction, after]
    exact readPadded_padded fits _

/-- What was written is read back. -/
theorem fromIsoformat_isoformat (moment : DateTime) :
    fromIsoformat moment.isoformat = some moment := by
  have year : moment.date.year < 10 ^ 4 := Nat.lt_succ_of_le moment.yearEnds
  have month : moment.date.month < 10 ^ 2 := Nat.lt_of_le_of_lt moment.date.month_le (by decide)
  have day : moment.date.day < 10 ^ 2 := Nat.lt_of_le_of_lt moment.date.day_le (by decide)
  have hour : moment.hour < 10 ^ 2 := Nat.lt_trans moment.hourEnds (by decide)
  have minute : moment.minute < 10 ^ 2 := Nat.lt_trans moment.minuteEnds (by decide)
  have second : moment.second < 10 ^ 2 := Nat.lt_trans moment.secondEnds (by decide)
  have valid : make? moment.date moment.hour moment.minute moment.second moment.microsecond =
      some moment :=
    dif_pos ⟨moment.yearEnds, moment.hourEnds, moment.minuteEnds, moment.secondEnds,
      moment.microsecondEnds⟩
  unfold fromIsoformat isoformat
  rw [String.toList_ofList, readPadded_padded year]
  simp only [Option.bind_eq_bind, Option.bind_some, readAfter_padded month, readAfter_padded day,
    readAfter_padded hour, readAfter_padded minute, readAfter_padded second,
    readFraction_fractionText moment.microsecondEnds, if_pos, CivilDate.make?_self, valid]

end DateTime

end AutoRouteGateway.Runtime
