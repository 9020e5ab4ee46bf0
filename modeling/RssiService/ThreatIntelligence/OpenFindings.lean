import RssiService.Foundation.Counting
import RssiService.Reporting.Periods
import RssiService.ThreatIntelligence.Ingestion

/-!
# Open findings over a period

The curve of a period starts from the findings open at its first instant, adds
the detections of each day and subtracts its closing dates.  The count it
stands for reads the findings themselves at the end of the day.
-/

namespace RssiService.ThreatIntelligence

open Foundation
open Reporting (Calendar Period)

/-! ## Indicators -/

/-- Detected by the instant, and open, or closed after it. -/
def openAt (tenant moment : Nat) (finding : BreachFinding) : Bool :=
  finding.tenant = tenant && finding.detectedAt ≤ moment &&
    (finding.status = .open || finding.treatedAt.any (moment < ·))

/-- The date falls between two instants, both included. -/
def between (debut fin : Nat) (champ : Option Nat) : Bool :=
  champ.any fun moment => debut ≤ moment && moment ≤ fin

/-- The number of rows of each day, for a field of dates. -/
def seauxQuotidiens (calendar : Calendar) (rows : List BreachFinding)
    (champ : BreachFinding → Option Nat) (debut fin : Nat) : Nat → Nat :=
  fun jour => rows.countP fun row =>
    (champ row).any fun moment =>
      debut ≤ moment && moment ≤ fin && calendar.dayOf moment = jour

structure SeriesPoint where
  date : Nat
  openCount : Int
  treated : Nat
  deriving DecidableEq, Repr

/-- The loop over the days: the running stock, never shown below zero. -/
def seriesLoop (detections clotures traitements : Nat → Nat) (courant : Int) (traitees : Nat) :
    List Nat → List SeriesPoint
  | [] => []
  | jour :: jours =>
      let courant := courant + (detections jour - clotures jour)
      let traitees := traitees + traitements jour
      { date := jour, openCount := max 0 courant, treated := traitees } ::
        seriesLoop detections clotures traitements courant traitees jours

def Store.ofTenant (store : Store) (tenant : Nat) : List BreachFinding :=
  store.findings.rows.filter fun row => row.tenant = tenant

def openFindingsSeries (calendar : Calendar) (store : Store) (tenant : Nat) (period : Period) :
    List SeriesPoint :=
  let duTenant := store.ofTenant tenant
  let start := period.start calendar
  let fin := period.end calendar
  let detections := seauxQuotidiens calendar duTenant (fun row => some row.detectedAt) start fin
  let clotures := seauxQuotidiens calendar duTenant BreachFinding.treatedAt start fin
  let traitements := seauxQuotidiens calendar (duTenant.filter fun row => row.status = .treated)
    BreachFinding.treatedAt start fin
  seriesLoop detections clotures traitements (store.findings.rows.countP (openAt tenant start)) 0
    period.dayList

structure BreachIndicators where
  openTotal : Nat
  openBySeverity : Severity → Nat
  openAtPeriodStart : Nat
  newInPeriod : Nat
  treatedInPeriod : Nat
  ignoredInPeriod : Nat
  closedInPeriod : Nat
  series : List SeriesPoint

def breachIndicators (calendar : Calendar) (store : Store) (tenant : Nat) (period : Period) :
    BreachIndicators :=
  let start := period.start calendar
  let fin := period.end calendar
  let ouvertes := store.findings.rows.filter (openAt tenant fin)
  let duTenant := store.ofTenant tenant
  let closes := duTenant.filter fun row => between start fin row.treatedAt
  let traitees := closes.countP fun row => row.status = .treated
  let ignorees := closes.countP fun row => row.status = .ignored
  { openTotal := ouvertes.length
    openBySeverity := fun severity => ouvertes.countP fun row => row.severity = severity
    openAtPeriodStart := store.findings.rows.countP (openAt tenant start)
    newInPeriod := duTenant.countP fun row => between start fin (some row.detectedAt)
    treatedInPeriod := traitees
    ignoredInPeriod := ignorees
    closedInPeriod := traitees + ignorees
    series := openFindingsSeries calendar store tenant period }

/-! ## What the curve stands for -/

/-- The findings of the tenant open at the end of a day. -/
def openOn (calendar : Calendar) (store : Store) (tenant day : Nat) : Nat :=
  store.findings.rows.countP (openAt tenant (calendar.endOf day))

/-- Each day of the period shows the findings open at its end, and the last one
the total of the period. -/
structure SeriesAgrees (calendar : Calendar) (store : Store) (tenant : Nat) (period : Period) :
    Prop where
  days : (breachIndicators calendar store tenant period).series.map
      (fun point => (point.date, point.openCount)) =
    period.dayList.map fun day => (day, (openOn calendar store tenant day : Int))
  last : (breachIndicators calendar store tenant period).series.getLast?.map
      SeriesPoint.openCount =
    some ((breachIndicators calendar store tenant period).openTotal : Int)

/-! ## The condition -/

/-- A finding the curve counts once too often at an instant: detected at the
very start and still open, or closed before the start, or without a date, and
detected since. -/
def countedTooOften (tenant start moment : Nat) (finding : BreachFinding) : Bool :=
  let detected := finding.detectedAt
  finding.tenant = tenant &&
    match finding.status.isClosed, finding.treatedAt with
    | false, none => detected = start
    | false, some closing => detected = start && !(start ≤ closing && closing ≤ moment)
    | true, none => start ≤ detected && detected ≤ moment
    | true, some closing =>
        (start < closing && detected = start) ||
          (closing < start && start ≤ detected && detected ≤ moment)

/-- A finding the curve counts once too little at an instant: open again after a
closing in the period, closed at the very start, or closed before it was detected. -/
def countedTooLittle (tenant start moment : Nat) (finding : BreachFinding) : Bool :=
  let detected := finding.detectedAt
  finding.tenant = tenant &&
    match finding.status.isClosed, finding.treatedAt with
    | false, none => false
    | false, some closing => start ≤ closing && closing ≤ moment && detected ≠ start
    | true, none => false
    | true, some closing =>
        (closing = start && !(start ≤ detected && detected ≤ moment)) ||
          (start < closing && closing ≤ moment && moment < detected)

/-- The findings counted too often and too little balance, unless none is open
and the curve is held at zero. -/
def Balanced (store : Store) (tenant start moment : Nat) : Prop :=
  let tooOften := store.findings.rows.countP (countedTooOften tenant start moment)
  let tooLittle := store.findings.rows.countP (countedTooLittle tenant start moment)
  tooOften = tooLittle ∨
    ((∀ finding ∈ store.findings, openAt tenant moment finding = false) ∧ tooOften ≤ tooLittle)

/-! ## One row -/

section Rows

variable {tenant start moment : Nat}

/-- What the curve adds and takes away for a finding, with what it misses, is
what the count holds, with what the curve has in excess. -/
theorem row_balance (tenant : Nat) (le : start ≤ moment) (finding : BreachFinding) :
    ([openAt tenant start, fun row => row.tenant = tenant && between start moment row.detectedAt,
        countedTooLittle tenant start moment].countP fun predicate => predicate finding) =
      [openAt tenant moment, fun row => row.tenant = tenant && between start moment row.treatedAt,
        countedTooOften tenant start moment].countP fun predicate => predicate finding := by
  by_cases owned : finding.tenant = tenant
  · cases status : finding.status <;> cases closing : finding.treatedAt
    all_goals
      simp only [List.countP_cons, List.countP_nil, openAt, between, countedTooLittle,
        countedTooOften, owned, status, closing, FindingStatus.isClosed, Option.any_some,
        Option.any_none, decide_true, Bool.true_and, Bool.and_eq_true, Bool.or_eq_true,
        decide_eq_true_eq, Bool.not_eq_true', Bool.and_eq_false_iff, decide_eq_false_iff_not,
        reduceCtorEq, decide_false, Bool.false_or, Bool.true_or, Bool.and_true, Bool.and_false,
        Bool.false_eq_true, if_false]
    all_goals grind
  · simp [openAt, countedTooLittle, countedTooOften, owned]

end Rows

/-! ## The running stock -/

section Stock

variable {calendar : Calendar} {store : Store} {tenant : Nat} {period : Period}

/-- The rows of the tenant with a date of the field from the start on and before a limit. -/
def countedBefore (store : Store) (tenant : Nat) (champ : BreachFinding → Option Nat)
    (start limit : Nat) : Nat :=
  store.findings.rows.countP fun row =>
    row.tenant = tenant && (champ row).any fun moment => start ≤ moment && moment < limit

/-- The stock the curve carries into a day. -/
def stockBefore (calendar : Calendar) (store : Store) (tenant : Nat) (period : Period)
    (day : Nat) : Int :=
  let start := period.start calendar
  let limit := calendar.startOf day
  store.findings.rows.countP (openAt tenant start) +
    (countedBefore store tenant (fun row => some row.detectedAt) start limit -
      countedBefore store tenant BreachFinding.treatedAt start limit)

/-- One day adds its bucket to what was counted before it. -/
theorem countedBefore_succ {champ : BreachFinding → Option Nat} {day : Nat}
    (inside : day ∈ period.dayList) :
    countedBefore store tenant champ (period.start calendar) (calendar.startOf (day + 1)) =
      countedBefore store tenant champ (period.start calendar) (calendar.startOf day) +
        seauxQuotidiens calendar (store.ofTenant tenant) champ (period.start calendar)
          (period.end calendar) day := by
  have started : period.start calendar ≤ calendar.startOf day :=
    Calendar.startOf_mono (Reporting.mem_dayList.mp inside).1
  have rising := calendar.startOf_lt day
  have split := sum_countP_congr store.findings.rows
    [fun row => row.tenant = tenant && (champ row).any fun moment =>
      period.start calendar ≤ moment && moment < calendar.startOf (day + 1)]
    [fun row => row.tenant = tenant && (champ row).any fun moment =>
      period.start calendar ≤ moment && moment < calendar.startOf day,
      fun row => ((champ row).any fun moment => period.start calendar ≤ moment &&
        moment ≤ period.end calendar && calendar.dayOf moment = day) && row.tenant = tenant] ?_
  · simpa [countedBefore, seauxQuotidiens, Store.ofTenant, List.countP_filter] using split
  · intro row _
    by_cases owned : row.tenant = tenant
    · cases date : champ row with
      | none => simp [date]
      | some moment =>
          simp only [List.countP_cons, List.countP_nil, owned, date, Option.any_some, decide_true,
            Bool.true_and, Bool.and_true, Bool.and_eq_true, decide_eq_true_eq,
            Reporting.onDay_iff inside]
          grind
    · simp [owned]

theorem seriesLoop_points {detections clotures traitements : Nat → Nat} {stock : Nat → Int}
    (count : Nat) : ∀ (first traitees : Nat),
    (∀ day ∈ List.range' first count,
      stock (day + 1) = stock day + (detections day - clotures day)) →
    (seriesLoop detections clotures traitements (stock first) traitees
        (List.range' first count)).map (fun point => (point.date, point.openCount)) =
      (List.range' first count).map fun day => (day, max 0 (stock (day + 1))) := by
  induction count with
  | zero => exact fun _ _ _ => rfl
  | succ count ih =>
      intro first traitees moves
      have here := moves first (List.mem_range'_1.mpr ⟨Nat.le_refl _, by omega⟩)
      have later := ih (first + 1) (traitees + traitements first) fun day member =>
        moves day (List.mem_cons_of_mem _ member)
      rw [List.range'_succ, seriesLoop, List.map_cons, List.map_cons, ← here, later]

theorem points_series :
    (openFindingsSeries calendar store tenant period).map
        (fun point => (point.date, point.openCount)) =
      period.dayList.map fun day =>
        (day, max 0 (stockBefore calendar store tenant period (day + 1))) := by
  have opening : (store.findings.rows.countP (openAt tenant (period.start calendar)) : Int) =
      stockBefore calendar store tenant period period.firstDay := by
    have nothing (champ : BreachFinding → Option Nat) :
        countedBefore store tenant champ (period.start calendar)
          (calendar.startOf period.firstDay) = 0 := by
      rw [countedBefore, List.countP_eq_zero]
      intro row _
      cases champ row with
      | none => simp
      | some moment =>
          simp only [Option.any_some, Bool.and_eq_true, decide_eq_true_eq]
          rintro ⟨_, started, ended⟩
          rw [Period.start] at started
          omega
    simp only [stockBefore, nothing]
    omega
  rw [openFindingsSeries, opening]
  refine seriesLoop_points period.days period.firstDay 0 fun day member => ?_
  simp only [stockBefore, countedBefore_succ member]
  omega

/-- Each point of the curve is right exactly where what it counts too often and
too little balances. -/
theorem stock_eq_openOn_iff {day : Nat} (inside : day ∈ period.dayList) :
    max 0 (stockBefore calendar store tenant period (day + 1)) =
        (openOn calendar store tenant day : Int) ↔
      Balanced store tenant (period.start calendar) (calendar.endOf day) := by
  obtain ⟨notBefore, _⟩ := Reporting.mem_dayList.mp inside
  have started : period.start calendar ≤ calendar.endOf day := by
    rw [Calendar.le_endOf_iff]
    exact Nat.lt_of_le_of_lt (Calendar.startOf_mono notBefore) (calendar.startOf_lt day)
  have balance := sum_countP_congr store.findings.rows _ _ fun row _ =>
    row_balance tenant started row
  have upTo (champ : BreachFinding → Option Nat) :
      countedBefore store tenant champ (period.start calendar) (calendar.startOf (day + 1)) =
        store.findings.rows.countP fun row =>
          row.tenant = tenant && between (period.start calendar) (calendar.endOf day) (champ row) := by
    simp only [countedBefore, between, Calendar.le_endOf_iff]
  have noneOpen : (∀ finding ∈ store.findings,
      openAt tenant (calendar.endOf day) finding = false) ↔
        openOn calendar store tenant day = 0 := by
    simp [openOn, List.countP_eq_zero, Table.mem_def]
  simp only [List.map_cons, List.map_nil, List.sum_cons, List.sum_nil, ← upTo] at balance
  rw [Balanced, noneOpen]
  simp only [stockBefore, openOn] at balance ⊢
  omega

/-- The curve of a period shows, day by day, what is open, and ends on the total
of the period, exactly where it balances on every day. -/
theorem series_agrees_iff (calendar : Calendar) (store : Store) (tenant : Nat) (period : Period) :
    SeriesAgrees calendar store tenant period ↔
      ∀ day, period.firstDay ≤ day → day ≤ period.lastDay →
        Balanced store tenant (period.start calendar) (calendar.endOf day) := by
  have days : (breachIndicators calendar store tenant period).series.map
        (fun point => (point.date, point.openCount)) =
      period.dayList.map (fun day => (day, (openOn calendar store tenant day : Int))) ↔
        ∀ day, period.firstDay ≤ day → day ≤ period.lastDay →
          Balanced store tenant (period.start calendar) (calendar.endOf day) := by
    rw [breachIndicators, points_series, List.map_inj_left]
    constructor
    · intro same day notBefore notAfter
      have inside := Reporting.mem_dayList.mpr ⟨notBefore, notAfter⟩
      exact (stock_eq_openOn_iff inside).mp (Prod.mk.inj (same day inside)).2
    · intro balanced day inside
      obtain ⟨notBefore, notAfter⟩ := Reporting.mem_dayList.mp inside
      rw [(stock_eq_openOn_iff inside).mpr (balanced day notBefore notAfter)]
  rw [← days]
  refine ⟨SeriesAgrees.days, fun same => ⟨same, ?_⟩⟩
  have lastPoint := congrArg List.getLast? same
  rw [List.getLast?_map, List.getLast?_map, Reporting.getLast?_dayList] at lastPoint
  have shown := congrArg (Option.map Prod.snd) lastPoint
  simpa [Option.map_map, Function.comp_def, openOn, breachIndicators, List.countP_eq_length_filter,
    Period.end] using shown

end Stock

/-! A leak ignored before closing dates were recorded, detected in the period. -/

section IgnoredWithoutDate

def microsecondsOfDay : Nat := 86400000000

/-- The days of universal time. -/
def universalCalendar : Calendar where
  startOf := fun day => day * microsecondsOfDay
  dayOf := fun moment => moment / microsecondsOfDay
  startOf_le_iff := fun day moment =>
    (Nat.le_div_iff_mul_le (show 0 < microsecondsOfDay by decide)).symm
  startOf_lt := fun day => by
    simp only [microsecondsOfDay]
    omega

def ignoredWithoutDateStore : Store :=
  let normalized := normalizeFinding plainRuntime leakedCredential.endpoint leakedCredential.payload
  { findings := Table.empty.create
      (fun key => { newFinding 1 acmeSite (10 * microsecondsOfDay + 1) normalized none key with
        status := .ignored })
      (fun _ => rfl)
    alerts := Table.empty
    syntheses := Table.empty }

def tenthDay : Period := ⟨"custom", "Période personnalisée", 10, 10, Nat.le_refl 10⟩

theorem ignored_without_date_shown_open :
    ¬ SeriesAgrees universalCalendar ignoredWithoutDateStore 1 tenthDay := by
  intro agrees
  have shown : (breachIndicators universalCalendar ignoredWithoutDateStore 1 tenthDay).series.map
      (fun point => (point.date, point.openCount)) = [(10, 1)] := by decide +kernel
  have counted : (tenthDay.dayList.map fun day =>
      (day, (openOn universalCalendar ignoredWithoutDateStore 1 day : Int))) = [(10, 0)] := by
    decide +kernel
  have same := agrees.days
  rw [shown, counted] at same
  cases same

end IgnoredWithoutDate

end RssiService.ThreatIntelligence
