import Colloquy.Instant
import Mathlib.Tactic.IntervalCases

/-! Every day has a date, and the date leads back to the day. -/
namespace Colloquy.Instant

def daysBefore (yearOfEra : Nat) : Nat := 365 * yearOfEra + yearOfEra / 4 - yearOfEra / 100

def yearOfEra (dayOfEra : Nat) : Nat :=
  (dayOfEra - dayOfEra / 1460 + dayOfEra / 36524 - dayOfEra / 146096) / 365

-- A day within an era: its century, its span of four years, its year and its day.
structure EraDay (dayOfEra century span year day : Nat) : Prop where
  days : dayOfEra = 36524 * century + 1461 * span + 365 * year + day
  century_lt : century < 4
  span_lt : span < 25
  year_lt : year < 4
  day_le : day ≤ 365
  longYear : day = 365 → year = 3
  longCentury : day = 365 → span = 24 → century = 3

theorem eraDay_exists {dayOfEra : Nat} (bound : dayOfEra < 146097) :
    ∃ century span year day, EraDay dayOfEra century span year day := by
  let century := min (dayOfEra / 36524) 3
  let inCentury := dayOfEra - 36524 * century
  let span := inCentury / 1461
  let year := min (inCentury % 1461 / 365) 3
  refine ⟨century, span, year, inCentury % 1461 - 365 * year, ?_, ?_, ?_, ?_, ?_, ?_, ?_⟩ <;>
    dsimp only [century, inCentury, span, year] <;> omega

section Era

variable {dayOfEra century span year day : Nat} (place : EraDay dayOfEra century span year day)
include place

-- The last day of an era counts as a century too many, and as an era too many.
theorem EraDay.centuries : dayOfEra / 36524 = century + dayOfEra / 146096 := by
  obtain ⟨days, c, q, r, d, long, longest⟩ := place
  by_cases last : day = 365 ∧ span = 24
  · have lastYear := long last.1
    have lastCentury := longest last.1 last.2
    omega
  · have within : 1461 * span + 365 * year + day < 36524 := by
      clear days longest
      omega
    rw [Nat.div_eq_of_lt (show dayOfEra < 146096 by omega)]
    omega

-- Spans of 1460 days are ahead of the calendar by one at most.
theorem EraDay.spans : ∃ ahead, dayOfEra / 1460 = 25 * century + span + ahead ∧
    ahead ≤ day ∧ day < 365 + ahead := by
  obtain ⟨rfl, c, q, r, d, long, -⟩ := place
  refine ⟨(24 * century + span + 365 * year + day) / 1460, ?_, ?_, ?_⟩
  · omega
  · omega
  · omega

theorem EraDay.yearOfEra : yearOfEra dayOfEra = 100 * century + 4 * span + year := by
  obtain ⟨ahead, spans, notEarly, notLate⟩ := place.spans
  have days := place.days
  unfold Instant.yearOfEra
  rw [spans, place.centuries]
  have short : dayOfEra - (25 * century + span + ahead) + (century + dayOfEra / 146096) -
      dayOfEra / 146096 = 365 * (100 * century + 4 * span + year) + (day - ahead) := by
    generalize dayOfEra / 146096 = eras
    omega
  rw [short, Nat.mul_add_div (by decide), Nat.div_eq_of_lt (by omega), Nat.add_zero]

theorem EraDay.daysBefore : daysBefore (100 * century + 4 * span + year) =
    36524 * century + 1461 * span + 365 * year := by
  obtain ⟨rfl, c, q, r, d, long, longest⟩ := place
  unfold Instant.daysBefore
  omega

end Era

def monthOfDay (dayOfYear : Nat) : Nat :=
  let m := (5 * dayOfYear + 2) / 153
  if m < 10 then m + 3 else m - 9

def dayOfMonth (dayOfYear : Nat) : Nat := dayOfYear - (153 * ((5 * dayOfYear + 2) / 153) + 2) / 5 + 1

-- Only the day that a long year has more is a leap day.
theorem month_valid : ∀ day < 366, 1 ≤ monthOfDay day ∧ monthOfDay day ≤ 12 ∧
    1 ≤ dayOfMonth day ∧
    (153 * ((monthOfDay day + 9) % 12) + 2) / 5 + dayOfMonth day - 1 = day ∧
    dayOfMonth day ≤ daysInMonth (if day = 365 then 4 else 1) (monthOfDay day) := by
  decide +kernel

theorem daysInMonth_mono {year year' : Int} (month : Nat)
    (leap : isLeap year = true → isLeap year' = true) :
    daysInMonth year month ≤ daysInMonth year' month := by
  unfold daysInMonth
  by_cases february : month = 2
  · rw [if_pos february, if_pos february]
    cases before : isLeap year with
    | false =>
      rw [if_neg Bool.false_ne_true]
      split <;> decide
    | true => rw [leap before]
  · rw [if_neg february, if_neg february]

def Date.IsValid (date : Date) : Prop :=
  1 ≤ date.month ∧ date.month ≤ 12 ∧ 1 ≤ date.day ∧ date.day ≤ daysInMonth date.year date.month

theorem date_of_day (days : Int) : (dateOfDays days).IsValid ∧
    daysOfDate (dateOfDays days).year (dateOfDays days).month (dateOfDays days).day = days := by
  let z := days + 719468
  let era := z / 146097
  have range : (z % 146097).toNat < 146097 := by omega
  obtain ⟨century, span, year, day, place⟩ := eraDay_exists range
  let y := 100 * century + 4 * span + year
  have yearIs : yearOfEra (z % 146097).toNat = y := place.yearOfEra
  have before : daysBefore y = 36524 * century + 1461 * span + 365 * year := place.daysBefore
  have dayIs : (z % 146097).toNat - daysBefore y = day := by
    rw [before, place.days]
    omega
  have date : dateOfDays days = ⟨if monthOfDay day ≤ 2 then era * 400 + y + 1 else era * 400 + y,
      monthOfDay day, dayOfMonth day⟩ := by
    rw [← dayIs, ← yearIs]
    rfl
  have short : day < 366 := Nat.lt_succ_of_le place.day_le
  obtain ⟨low, high, first, back, last⟩ := month_valid day short
  rw [date]
  refine ⟨⟨low, high, first, Nat.le_trans last (daysInMonth_mono _ ?leap)⟩, ?days⟩
  case leap =>
    intro long
    by_cases lastDay : day = 365
    · have lastYear := place.longYear lastDay
      have lastCentury := place.longCentury lastDay
      subst lastDay
      have february : monthOfDay 365 ≤ 2 := by decide
      simp only [isLeap, february, if_true, Bool.and_eq_true, Bool.or_eq_true, beq_iff_eq,
        bne_iff_ne]
      dsimp only [y]
      have := place.span_lt
      omega
    · rw [if_neg lastDay] at long
      cases long
  case days =>
    have marchYear : (if monthOfDay day ≤ 2 then
        (if monthOfDay day ≤ 2 then era * 400 + y + 1 else era * 400 + y) - 1
        else (if monthOfDay day ≤ 2 then era * 400 + y + 1 else era * 400 + y)) = era * 400 + y := by
      split <;> omega
    unfold daysOfDate
    dsimp only
    rw [marchYear, back]
    have small : y < 400 := by
      have := place.century_lt
      have := place.span_lt
      have := place.year_lt
      omega
    have fours : (era * 400 + (y : Int)) / 4 = 100 * era + (y / 4 : Nat) := by omega
    have hundreds : (era * 400 + (y : Int)) / 100 = 4 * era + (y / 100 : Nat) := by omega
    have eras : (era * 400 + (y : Int)) / 400 = era := by omega
    have whole : (365 * y + y / 4 - y / 100 : Nat) + day = (z % 146097).toNat := by
      rw [place.days]
      exact congrArg (· + day) before
    have split : z = 146097 * era + (z % 146097).toNat := by omega
    rw [fours, hundreds, eras]
    clear_value y era
    omega

end Colloquy.Instant
