import Mathlib.Algebra.GroupWithZero.Nat
import Mathlib.Data.Nat.Find
import Mathlib.Order.Monotone.Basic
import Mathlib.Tactic.IntervalCases
import RssiService.Python.Text

/-!
# Calendar dates

A date is its proleptic Gregorian ordinal.  `fromisoformat` reads the calendar
and the week formats of ISO 8601, with or without separators.
-/

namespace RssiService.Python

def maxOrdinal : Nat := 3652059

/-- A date between 0001-01-01 and 9999-12-31, by its ordinal. -/
structure Date where
  ordinal : Nat
  positive : 1 ≤ ordinal
  bounded : ordinal ≤ maxOrdinal
  deriving DecidableEq, Repr

def Date.ofOrdinal? (ordinal : Nat) : Option Date :=
  if range : 1 ≤ ordinal ∧ ordinal ≤ maxOrdinal then some ⟨ordinal, range.1, range.2⟩ else none

def isLeap (year : Nat) : Bool :=
  year % 4 = 0 && (year % 100 ≠ 0 || year % 400 = 0)

def daysInMonth (year month : Nat) : Nat :=
  if month = 2 then if isLeap year then 29 else 28
  else if month = 4 || month = 6 || month = 9 || month = 11 then 30 else 31

def daysBeforeYear (year : Nat) : Nat :=
  (year - 1) * 365 + (year - 1) / 4 - (year - 1) / 100 + (year - 1) / 400

def daysBeforeMonth (year month : Nat) : Nat :=
  ((List.range (month - 1)).map fun previous => daysInMonth year (previous + 1)).sum

def ymdToOrdinal (year month day : Nat) : Nat :=
  daysBeforeYear year + daysBeforeMonth year month + day

/-- `date(year, month, day)`. -/
def Date.ofYmd? (year month day : Nat) : Option Date :=
  if 1 ≤ year && year ≤ 9999 && 1 ≤ month && month ≤ 12 && 1 ≤ day && day ≤ daysInMonth year month
  then ofOrdinal? (ymdToOrdinal year month day) else none

/-- The Monday that starts the first week of a year. -/
def isoWeek1Monday (year : Nat) : Int :=
  let firstDay : Int := ymdToOrdinal year 1 1
  let firstWeekday := (firstDay + 6) % 7
  let monday := firstDay - firstWeekday
  if 3 < firstWeekday then monday + 7 else monday

/-- A year has a week 53 when it starts on a Thursday, or on a Wednesday in a leap year. -/
def hasWeek53 (year : Nat) : Bool :=
  let firstWeekday := ymdToOrdinal year 1 1 % 7
  firstWeekday = 4 || (firstWeekday = 3 && isLeap year)

def Date.ofIsoWeek? (year week day : Nat) : Option Date :=
  if 1 ≤ year && year ≤ 9999 && 1 ≤ week && (week ≤ 52 || (week = 53 && hasWeek53 year)) &&
      1 ≤ day && day ≤ 7
  then ofOrdinal? (isoWeek1Monday year + (week - 1 : Nat) * 7 + (day - 1 : Nat)).toNat else none

/-- The number written by decimal digits. -/
def digits? (text : List Char) : Option Nat :=
  if text.all Char.isDigit then
    some (text.foldl (fun value symbol => 10 * value + (symbol.toNat - '0'.toNat)) 0)
  else none

/-- `date.fromisoformat`; `ValueError` is `none`. -/
def Date.fromIsoFormat? (text : List Char) : Option Date :=
  match text with
  | [y1, y2, y3, y4, '-', 'W', w1, w2] => do
      ofIsoWeek? (← digits? [y1, y2, y3, y4]) (← digits? [w1, w2]) 1
  | [y1, y2, y3, y4, '-', 'W', w1, w2, '-', d] => do
      ofIsoWeek? (← digits? [y1, y2, y3, y4]) (← digits? [w1, w2]) (← digits? [d])
  | [y1, y2, y3, y4, 'W', w1, w2] => do
      ofIsoWeek? (← digits? [y1, y2, y3, y4]) (← digits? [w1, w2]) 1
  | [y1, y2, y3, y4, 'W', w1, w2, d] => do
      ofIsoWeek? (← digits? [y1, y2, y3, y4]) (← digits? [w1, w2]) (← digits? [d])
  | [y1, y2, y3, y4, '-', m1, m2, '-', d1, d2] => do
      ofYmd? (← digits? [y1, y2, y3, y4]) (← digits? [m1, m2]) (← digits? [d1, d2])
  | [y1, y2, y3, y4, m1, m2, d1, d2] => do
      ofYmd? (← digits? [y1, y2, y3, y4]) (← digits? [m1, m2]) (← digits? [d1, d2])
  | _ => none

/-! ## Months -/

/-- The first day of a month, the months being numbered from January of year 1. -/
def firstOfMonth (month : Nat) : Nat := ymdToOrdinal (month / 12 + 1) (month % 12 + 1) 1

/-- The month of a day: the last one that has begun. -/
def monthOf (ordinal : Nat) : Nat :=
  Nat.findGreatest (fun month => firstOfMonth month ≤ ordinal) (ordinal * 12 / 365 + 2)

def twoDigits (value : Nat) : String :=
  if value < 10 then "0" ++ toString value else toString value

/-- `%d/%m`. -/
def dayMonth (ordinal : Nat) : String :=
  let month := monthOf ordinal
  twoDigits (ordinal - firstOfMonth month + 1) ++ "/" ++ twoDigits (month % 12 + 1)

theorem daysBeforeYear_succ (year : Nat) :
    daysBeforeYear (year + 1) + 365 ≤ daysBeforeYear (year + 2) := by
  simp only [daysBeforeYear]
  omega

theorem daysBeforeMonth_succ (year month : Nat) :
    daysBeforeMonth year (month + 2) =
      daysBeforeMonth year (month + 1) + daysInMonth year (month + 1) := by
  simp [daysBeforeMonth, List.range_succ]

theorem daysBeforeMonth_december (year : Nat) : daysBeforeMonth year 12 ≤ 335 := by
  simp only [daysBeforeMonth, List.range_succ, daysInMonth]
  split <;> simp

/-- The months before one have thirty days each, but for two days of February. -/
theorem thirty_le_daysBeforeMonth (year : Nat) {month : Nat} (inYear : month < 12) :
    30 * month ≤ daysBeforeMonth year (month + 1) + 2 := by
  interval_cases month <;>
    simp only [daysBeforeMonth, List.range_succ, daysInMonth] <;> split <;> simp

theorem monotone_firstOfMonth : Monotone firstOfMonth := by
  refine monotone_nat_of_le_succ fun month => ?_
  rw [firstOfMonth, firstOfMonth, ymdToOrdinal, ymdToOrdinal]
  by_cases december : month % 12 = 11
  · have year : (month + 1) / 12 = month / 12 + 1 := by omega
    have january : (month + 1) % 12 = 0 := by omega
    have before : daysBeforeMonth (month / 12 + 1) (11 + 1) ≤ 335 := daysBeforeMonth_december _
    have whole : daysBeforeYear (month / 12 + 1) + 365 ≤ daysBeforeYear (month / 12 + 1 + 1) :=
      daysBeforeYear_succ _
    rw [december, year, january]
    omega
  · have year : (month + 1) / 12 = month / 12 := by omega
    have next : (month + 1) % 12 = month % 12 + 1 := by omega
    rw [year, next, daysBeforeMonth_succ]
    omega

/-- The months that have begun are those up to the month of the day. -/
theorem firstOfMonth_le_iff {month ordinal : Nat} (positive : 1 ≤ ordinal) :
    firstOfMonth month ≤ ordinal ↔ month ≤ monthOf ordinal := by
  constructor
  · intro begun
    refine Nat.le_findGreatest ?_ begun
    have days := thirty_le_daysBeforeMonth (month / 12 + 1) (Nat.mod_lt month (by decide : 0 < 12))
    simp only [firstOfMonth, ymdToOrdinal, daysBeforeYear] at begun
    omega
  · intro le
    refine (monotone_firstOfMonth le).trans ?_
    exact Nat.findGreatest_spec (P := fun month => firstOfMonth month ≤ ordinal) (m := 0)
      (Nat.zero_le _) positive

theorem daysBeforeYear_succ_le (year : Nat) :
    daysBeforeYear (year + 2) ≤ daysBeforeYear (year + 1) + 366 := by
  simp only [daysBeforeYear]
  omega

theorem le_daysBeforeMonth_december (year : Nat) : 334 ≤ daysBeforeMonth year 12 := by
  simp only [daysBeforeMonth, List.range_succ, daysInMonth]
  split <;> simp

theorem daysInMonth_le (year month : Nat) : daysInMonth year month ≤ 31 := by
  unfold daysInMonth
  split
  · split <;> omega
  · split <;> omega

/-- A month has thirty-one days at most; the bound leaves a day of slack. -/
theorem firstOfMonth_succ_le (month : Nat) : firstOfMonth (month + 1) ≤ firstOfMonth month + 32 := by
  rw [firstOfMonth, firstOfMonth, ymdToOrdinal, ymdToOrdinal]
  by_cases december : month % 12 = 11
  · have year : (month + 1) / 12 = month / 12 + 1 := by omega
    have january : (month + 1) % 12 = 0 := by omega
    have before : 334 ≤ daysBeforeMonth (month / 12 + 1) (11 + 1) := le_daysBeforeMonth_december _
    have whole : daysBeforeYear (month / 12 + 1 + 1) ≤ daysBeforeYear (month / 12 + 1) + 366 :=
      daysBeforeYear_succ_le _
    have none : daysBeforeMonth (month / 12 + 1 + 1) (0 + 1) = 0 := rfl
    rw [december, year, january]
    omega
  · have year : (month + 1) / 12 = month / 12 := by omega
    have next : (month + 1) % 12 = month % 12 + 1 := by omega
    have days := daysInMonth_le (month / 12 + 1) (month % 12 + 1)
    rw [year, next, daysBeforeMonth_succ]
    omega

end RssiService.Python
