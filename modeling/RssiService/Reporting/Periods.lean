import Mathlib.Data.List.Basic

/-!
# Reporting periods

A committee reads whole days of the display time zone: a period starts with its
first day and ends with the last microsecond of its last day.
-/

namespace RssiService.Reporting

/-- The days of the display time zone, by the instant at which each one starts. -/
structure Calendar where
  startOf : Nat → Nat
  dayOf : Nat → Nat
  startOf_le_iff : ∀ day moment, startOf day ≤ moment ↔ day ≤ dayOf moment
  startOf_lt : ∀ day, startOf day < startOf (day + 1)

namespace Calendar

variable (calendar : Calendar)

/-- The last microsecond of a day. -/
def endOf (day : Nat) : Nat := calendar.startOf (day + 1) - 1

variable {calendar} {day moment : Nat}

theorem le_endOf_iff : moment ≤ calendar.endOf day ↔ moment < calendar.startOf (day + 1) := by
  have := calendar.startOf_lt day
  rw [endOf]
  omega

theorem startOf_mono {first second : Nat} (le : first ≤ second) :
    calendar.startOf first ≤ calendar.startOf second := by
  induction le with
  | refl => exact Nat.le_refl _
  | step _ ih => exact Nat.le_trans ih (Nat.le_of_lt (calendar.startOf_lt _))

theorem dayOf_eq_iff :
    calendar.dayOf moment = day ↔
      calendar.startOf day ≤ moment ∧ moment < calendar.startOf (day + 1) := by
  have from_start := calendar.startOf_le_iff day moment
  have from_next := calendar.startOf_le_iff (day + 1) moment
  omega

theorem le_endOf_iff_dayOf_le : moment ≤ calendar.endOf day ↔ calendar.dayOf moment ≤ day := by
  have next := calendar.startOf_le_iff (day + 1) moment
  rw [le_endOf_iff]
  omega

theorem dayOf_mono {first second : Nat} (le : first ≤ second) :
    calendar.dayOf first ≤ calendar.dayOf second :=
  (calendar.startOf_le_iff _ _).mp
    (Nat.le_trans ((calendar.startOf_le_iff _ _).mpr (Nat.le_refl _)) le)

end Calendar

inductive Preset where
  | days30
  | quarter
  | semester
  | year
  deriving DecidableEq, Repr

def Preset.key : Preset → String
  | .days30 => "30d"
  | .quarter => "quarter"
  | .semester => "semester"
  | .year => "year"

def Preset.days : Preset → Nat
  | .days30 => 30
  | .quarter => 91
  | .semester => 182
  | .year => 365

def Preset.label : Preset → String
  | .days30 => "30 derniers jours"
  | .quarter => "Trimestre"
  | .semester => "Semestre"
  | .year => "Année"

def presets : List Preset := [.days30, .quarter, .semester, .year]

def presetCustom : String := "custom"

def defaultPreset : String := Preset.quarter.key

def maxCustomDays : Nat := 366 * 5

inductive PeriodError where
  | missingBounds
  | reversed
  | tooLong
  | unknown
  deriving DecidableEq, Repr

def PeriodError.message : PeriodError → String
  | .missingBounds => "Indiquez une date de début et une date de fin."
  | .reversed => "La date de début doit précéder la date de fin."
  | .tooLong => "La période demandée est trop longue (cinq ans au maximum)."
  | .unknown => "Période inconnue."

/-- A period, by its first and last days. -/
structure Period where
  key : String
  label : String
  firstDay : Nat
  lastDay : Nat
  ordered : firstDay ≤ lastDay
  deriving DecidableEq, Repr

namespace Period

variable (calendar : Calendar) (period : Period)

def start : Nat := calendar.startOf period.firstDay

def «end» : Nat := calendar.endOf period.lastDay

def previousEnd : Nat := period.start calendar - 1

def days : Nat := period.lastDay - period.firstDay + 1

def previousStart : Nat := calendar.startOf (period.firstDay - period.days)

/-- The days of the period, in order. -/
def dayList : List Nat := List.range' period.firstDay period.days

end Period

/-- The period asked for, on the day it is today. -/
def resolve (key : Option String) (first last : Option Nat) (today : Nat) :
    Except PeriodError Period :=
  let key := (key.filter (· ≠ "")).getD defaultPreset
  if key = presetCustom then
    match first, last with
    | some first, some last =>
        if ordered : first ≤ last then
          if maxCustomDays < last - first + 1 then .error .tooLong
          else .ok ⟨presetCustom, "Période personnalisée", first, last, ordered⟩
        else .error .reversed
    | _, _ => .error .missingBounds
  else
    match presets.find? (fun preset => preset.key = key) with
    | none => .error .unknown
    | some preset =>
        .ok ⟨preset.key, preset.label, today - (preset.days - 1), today, Nat.sub_le _ _⟩

theorem mem_dayList {period : Period} {day : Nat} :
    day ∈ period.dayList ↔ period.firstDay ≤ day ∧ day ≤ period.lastDay := by
  have := period.ordered
  rw [Period.dayList, List.mem_range'_1, Period.days]
  omega

/-- What falls on a day of the period falls within the period. -/
theorem onDay_iff {calendar : Calendar} {period : Period} {day moment : Nat}
    (inside : day ∈ period.dayList) :
    (period.start calendar ≤ moment ∧ moment ≤ period.end calendar) ∧ calendar.dayOf moment = day ↔
      calendar.startOf day ≤ moment ∧ moment < calendar.startOf (day + 1) := by
  obtain ⟨notBefore, notAfter⟩ := mem_dayList.mp inside
  have ended : calendar.startOf (day + 1) ≤ calendar.startOf (period.lastDay + 1) :=
    Calendar.startOf_mono (by omega)
  have started : period.start calendar ≤ calendar.startOf day := Calendar.startOf_mono notBefore
  have inPeriod : moment ≤ period.end calendar ↔
      moment < calendar.startOf (period.lastDay + 1) := Calendar.le_endOf_iff
  rw [Calendar.dayOf_eq_iff, inPeriod]
  omega

theorem getLast?_dayList (period : Period) : period.dayList.getLast? = some period.lastDay := by
  have := period.ordered
  rw [Period.dayList, Period.days, List.getLast?_range', if_neg (Nat.succ_ne_zero _)]
  congr 1
  omega

end RssiService.Reporting
