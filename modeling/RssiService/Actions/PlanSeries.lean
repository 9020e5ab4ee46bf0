import Mathlib.Data.List.Sort
import RssiService.Actions.ActionPlan
import RssiService.Foundation.Grouping
import RssiService.ThreatIntelligence.OpenFindings

/-!
# The action plan over a period

The curve of the plan adds, day by day, the items created and the items completed.  An item
carries one date of completion, and that is the last time it was said to be done.
-/

namespace RssiService.Actions

open Foundation Foundation.Run Foundation.Grouping Python Assessments
open Reporting (Calendar Period)
open Tenants (Directory)
open ThreatIntelligence (universalCalendar microsecondsOfDay)

/-! ## Indicators -/

/-- What is done in a hundred, to the tenth; nothing where there is no item. -/
def completionRate (done total : Nat) : Option Float :=
  if total = 0 then none else some (roundTenths (Float.ofNat (100 * done) / Float.ofNat total))

structure ReferentialPlan where
  referentialId : Nat
  referentialName : String
  total : Nat
  done : Nat
  «open» : Nat
  completionRate : Option Float

structure PlanIndicators where
  total : Nat
  «open» : Nat
  todo : Nat
  inProgress : Nat
  done : Nat
  overdue : Nat
  withoutDueDate : Nat
  completedInPeriod : Nat
  createdInPeriod : Nat
  completionRate : Option Float
  byReferential : List ReferentialPlan

def ofTenant (items : Table ActionItem) (tenant : Nat) : List ActionItem :=
  items.rows.filter fun item => item.tenant = tenant

/-- The referential of the measure of an item. -/
def referentialOf (db : Database) (item : ActionItem) : Nat :=
  ((db.measures.find? item.measure).map Measure.referential).getD 0

def planByReferential (db : Database) (items : Table ActionItem) (tenant : Nat) :
    List ReferentialPlan :=
  let duTenant := ofTenant items tenant
  let ligne (referential : Nat) : ReferentialPlan :=
    let rows := members (referentialOf db) duTenant referential
    let done := rows.countP fun item => item.status = .done
    { referentialId := referential
      referentialName :=
        ((db.referentials.find? referential).map fun row => row.sheet.name).getD ""
      total := rows.length
      done
      «open» := rows.countP fun item => item.status ≠ .done
      completionRate := completionRate done rows.length }
  ((keys (referentialOf db) duTenant).map ligne).insertionSort fun first second =>
    first.referentialName ≤ second.referentialName

/-- The date falls within the period. -/
def within (calendar : Calendar) (period : Period) (date : Nat) : Bool :=
  period.start calendar ≤ date && date ≤ period.end calendar

def actionPlanIndicators (calendar : Calendar) (db : Database) (items : Table ActionItem)
    (tenant : Nat) (period : Period) (today : Nat) : PlanIndicators :=
  let duTenant := ofTenant items tenant
  let total := duTenant.length
  let done := duTenant.countP fun item => item.status = .done
  let inProgress := duTenant.countP fun item => item.status = .inProgress
  let todo := duTenant.countP fun item => item.status = .todo
  { total
    «open» := todo + inProgress
    todo
    inProgress
    done
    overdue := duTenant.countP fun item => item.dueDate.any (· < today) && item.status ≠ .done
    withoutDueDate := duTenant.countP fun item => item.dueDate.isNone && item.status ≠ .done
    completedInPeriod := duTenant.countP fun item => item.completedAt.any (within calendar period)
    createdInPeriod := duTenant.countP fun item => within calendar period item.createdAt
    completionRate := completionRate done total
    byReferential := planByReferential db items tenant }

/-! ## The curve -/

structure PlanPoint where
  date : Nat
  done : Nat
  total : Nat
  completionRate : Option Float

/-- How many of the dates of the period fall on each day. -/
def seaux (calendar : Calendar) (period : Period) (dates : List Nat) (jour : Nat) : Nat :=
  dates.countP fun date => within calendar period date && calendar.dayOf date = jour

/-- The loop over the days. -/
def planLoop (ajouts fins : Nat → Nat) (total faites : Nat) : List Nat → List PlanPoint
  | [] => []
  | jour :: jours =>
      let total := total + ajouts jour
      let faites := faites + fins jour
      { date := jour, done := faites, total, completionRate := completionRate faites total } ::
        planLoop ajouts fins total faites jours

def actionPlanSeries (calendar : Calendar) (items : Table ActionItem) (tenant : Nat)
    (period : Period) : List PlanPoint :=
  let creations := (ofTenant items tenant).map ActionItem.createdAt
  let completions := (ofTenant items tenant).filterMap ActionItem.completedAt
  let start := period.start calendar
  planLoop (seaux calendar period creations) (seaux calendar period completions)
    (creations.countP (· < start)) (completions.countP (· < start)) period.dayList

section Curve

variable {calendar : Calendar} {period : Period} {dates : List Nat} {items : Table ActionItem}
  {tenant : Nat}

/-- The dates before the next day are those before the day and those of the day. -/
theorem countP_lt_succ {day : Nat} (inside : day ∈ period.dayList) :
    dates.countP (· < calendar.startOf (day + 1)) =
      dates.countP (· < calendar.startOf day) + seaux calendar period dates day := by
  have rising := calendar.startOf_lt day
  have split := sum_countP_congr dates [fun date => date < calendar.startOf (day + 1)]
    [fun date => date < calendar.startOf day,
      fun date => within calendar period date && calendar.dayOf date = day] ?_
  · simpa [seaux] using split
  · intro date _
    simp only [List.countP_cons, List.countP_nil, within, Bool.and_eq_true, decide_eq_true_eq,
      Reporting.onDay_iff inside]
    grind

/-- The loop shows the running counts. -/
theorem planLoop_points (ajouts fins created completed : Nat → Nat) (count : Nat) :
    ∀ first, (∀ day ∈ List.range' first count, created (day + 1) = created day + ajouts day ∧
      completed (day + 1) = completed day + fins day) →
    (planLoop ajouts fins (created first) (completed first) (List.range' first count)).map
        (fun point => (point.date, point.done, point.total)) =
      (List.range' first count).map fun day => (day, completed (day + 1), created (day + 1)) := by
  induction count with
  | zero => exact fun _ _ => rfl
  | succ count ih =>
      intro first moves
      have here := moves first (List.mem_range'_1.mpr ⟨Nat.le_refl _, by omega⟩)
      have later := ih (first + 1) fun day member => moves day (List.mem_cons_of_mem _ member)
      rw [List.range'_succ, planLoop, List.map_cons, List.map_cons, ← here.1, ← here.2, later]

/-- The items created, and those last said to be done, by the end of a day. -/
def createdBy (items : Table ActionItem) (tenant moment : Nat) : Nat :=
  (ofTenant items tenant).countP fun item => item.createdAt ≤ moment

def completedBy (items : Table ActionItem) (tenant moment : Nat) : Nat :=
  (ofTenant items tenant).countP fun item => item.completedAt.any (· ≤ moment)

theorem countP_lt_startOf {day : Nat} :
    dates.countP (· < calendar.startOf (day + 1)) = dates.countP (· ≤ calendar.endOf day) := by
  simp only [Calendar.le_endOf_iff]

/-- Each point shows what was created and what was last completed by the end of its day. -/
theorem points_actionPlanSeries :
    (actionPlanSeries calendar items tenant period).map
        (fun point => (point.date, point.done, point.total)) =
      period.dayList.map fun day => (day, completedBy items tenant (calendar.endOf day),
        createdBy items tenant (calendar.endOf day)) := by
  let creations := (ofTenant items tenant).map ActionItem.createdAt
  let completions := (ofTenant items tenant).filterMap ActionItem.completedAt
  have points := planLoop_points (seaux calendar period creations)
    (seaux calendar period completions)
    (fun day => creations.countP (· < calendar.startOf day))
    (fun day => completions.countP (· < calendar.startOf day)) period.days period.firstDay
    fun day member => ⟨countP_lt_succ member, countP_lt_succ member⟩
  refine points.trans (List.map_congr_left fun day _ => ?_)
  rw [countP_lt_startOf, countP_lt_startOf]
  have same : ∀ date : Option Nat, (date.map fun date => decide (date ≤ calendar.endOf day)).getD
      false = date.any (· ≤ calendar.endOf day) := by
    rintro (_ | _) <;> rfl
  rw [List.countP_filterMap, List.countP_map]
  simp only [same]
  rfl

end Curve

/-! ## Histories -/

/-- The items, the clock, and for each item the instant since which it is done without
interruption. -/
structure History where
  items : Table ActionItem
  clock : Nat
  since : Nat → Option Nat

def History.empty (clock : Nat) : History := ⟨.empty, clock, fun _ => none⟩

/-- What happens, and how much later than what happened before. -/
inductive HistoryEvent where
  | generate (db : Database) (assessment : Assessment) (later : Nat)
  | change (directory : Directory) (item : Nat) (change : ItemChange) (later : Nat)

/-- The period of an item that is done goes on when it is said to be done again. -/
def sinceAfter (now : Nat) (item : ActionItem) (since : Option Nat) : ItemChange → Option Nat
  | .status .done => if item.status = .done then since else some now
  | .status _ => none
  | .assignee _ | .note _ | .dueDate _ => since

def historyStep (history : History) : HistoryEvent → History
  | .generate db assessment later =>
      let now := history.clock + later
      { history with items := (generateActionPlan db history.items assessment now).1, clock := now }
  | .change directory key change later =>
      let now := history.clock + later
      { items := changeItem directory history.items key change now
        clock := now
        since :=
          match history.items.find? key with
          | none => history.since
          | some item =>
              Function.update history.since key (sinceAfter now item (history.since key) change) }

/-- The items whose current period of being done began by an instant. -/
def History.doneBy (history : History) (tenant moment : Nat) : Nat :=
  (ofTenant history.items tenant).countP fun item => (history.since item.id).any (· ≤ moment)

/-- The curve of each period shows the items at the end of each day and those done without
interruption since then, and its last point agrees with the indicators of the day. -/
structure CurveHolds (calendar : Calendar) (history : History) : Prop where
  points : ∀ tenant period, (actionPlanSeries calendar history.items tenant period).map
      (fun point => (point.date, point.done, point.total)) =
    period.dayList.map fun day => (day, history.doneBy tenant (calendar.endOf day),
      createdBy history.items tenant (calendar.endOf day))
  ordered : ∀ tenant period, ∀ point ∈ actionPlanSeries calendar history.items tenant period,
    point.done ≤ point.total
  last : ∀ tenant period db today, history.clock ≤ period.end calendar →
    (actionPlanSeries calendar history.items tenant period).getLast?.map
        (fun point => (point.done, point.total)) =
      some ((actionPlanIndicators calendar db history.items tenant period today).done,
        (actionPlanIndicators calendar db history.items tenant period today).total)

/-- An item that is done is said to be done again only on the day of its completion. -/
def SaidAgainSameDay (calendar : Calendar) (history : History) : HistoryEvent → Prop
  | .change _ key (.status .done) later =>
      ∀ item ∈ history.items, item.id = key → item.status = .done →
        ∀ completed, item.completedAt = some completed →
          calendar.dayOf (history.clock + later) = calendar.dayOf completed
  | _ => True

/-! ### What the dates record -/

/-- What the dates of an item record. -/
structure Dated (clock : Nat) (since : Option Nat) (item : ActionItem) : Prop where
  created : item.createdAt ≤ clock
  done : item.status = .done ↔ item.completedAt.isSome = true
  lasting : since.isSome = item.completedAt.isSome
  completed : ∀ completed, item.completedAt = some completed →
    item.createdAt ≤ completed ∧ completed ≤ clock
  began : ∀ began completed, since = some began → item.completedAt = some completed →
    began ≤ completed

structure Recorded (history : History) : Prop where
  dated : ∀ item ∈ history.items, Dated history.clock (history.since item.id) item
  unborn : ∀ key, history.items.next ≤ key → history.since key = none

section Records

variable {history : History} {item : ActionItem} {since : Option Nat} {clock now : Nat}

theorem Dated.later (dated : Dated clock since item) (le : clock ≤ now) : Dated now since item where
  created := dated.created.trans le
  done := dated.done
  lasting := dated.lasting
  completed := fun completed held => (dated.completed completed held).imp_right le.trans'
  began := dated.began

/-- An item that is not done has no date and no period. -/
theorem Dated.undone (created : item.createdAt ≤ clock) (notDone : item.status ≠ .done)
    (absent : item.completedAt = none) : Dated clock none item where
  created := created
  done := by
    rw [absent]
    exact iff_of_false notDone Bool.false_ne_true
  lasting := by rw [absent]
  completed := by
    intro completed held
    rw [absent] at held
    cases held
  began := by rintro _ _ ⟨⟩

theorem Dated.change (dated : Dated clock since item) (le : clock ≤ now) (directory : Directory)
    (change : ItemChange) :
    Dated now (sinceAfter now item since change) (change.apply directory now item) := by
  have kept := dated.later le
  cases change with
  | status value =>
      cases value with
      | todo => exact .undone kept.created (by rintro ⟨⟩) rfl
      | inProgress => exact .undone kept.created (by rintro ⟨⟩) rfl
      | done =>
          refine ⟨kept.created, iff_of_true rfl rfl, ?_, ?_, ?_⟩
          · rw [sinceAfter]
            split
            · rename_i again
              exact dated.lasting.trans (dated.done.mp again)
            · rfl
          · rintro _ ⟨⟩
            exact ⟨kept.created, Nat.le_refl now⟩
          · intro began completed lasts ended
            cases ended
            rw [sinceAfter] at lasts
            split at lasts
            · rename_i again
              obtain ⟨before, held⟩ := Option.isSome_iff_exists.mp (dated.done.mp again)
              exact (dated.began began before lasts held).trans (kept.completed before held).2
            · cases lasts
              exact Nat.le_refl now
  | assignee user =>
      rw [ItemChange.apply]
      split
      · rename_i accepted
        rw [assignActionItem_ok accepted]
        exact ⟨kept.created, kept.done, kept.lasting, kept.completed, kept.began⟩
      · exact kept
  | note text => exact ⟨kept.created, kept.done, kept.lasting, kept.completed, kept.began⟩
  | dueDate day => exact ⟨kept.created, kept.done, kept.lasting, kept.completed, kept.began⟩

/-- The period of an item of the plans after a change of one of them. -/
theorem since_change {directory : Directory} {key later : Nat} {change : ItemChange}
    (inside : item ∈ history.items) :
    (historyStep history (.change directory key change later)).since item.id =
      if item.id = key then
        sinceAfter (history.clock + later) item (history.since item.id) change
      else history.since item.id := by
  rw [historyStep]
  dsimp only
  by_cases mine : item.id = key
  · have present : history.items.find? key = some item :=
      Table.find?_eq_some_iff.mpr ⟨inside, mine⟩
    rw [if_pos mine, present, mine]
    exact Function.update_self _ _ _
  · rw [if_neg mine]
    cases history.items.find? key with
    | none => rfl
    | some found => exact Function.update_of_ne mine _ _

/-- What holds of each item and its period after a change of one of them. -/
theorem forall_mem_change {directory : Directory} {key later : Nat} {change : ItemChange}
    {P : Option Nat → ActionItem → Prop} :
    (∀ item ∈ (historyStep history (.change directory key change later)).items,
        P ((historyStep history (.change directory key change later)).since item.id) item) ↔
      ∀ item ∈ history.items,
        if item.id = key then
          P (sinceAfter (history.clock + later) item (history.since item.id) change)
            (change.apply directory (history.clock + later) item)
        else P (history.since item.id) item := by
  have moved (item : ActionItem) (inside : item ∈ history.items) :
      P ((historyStep history (.change directory key change later)).since
          (if item.id = key then change.apply directory (history.clock + later) item
            else item).id)
          (if item.id = key then change.apply directory (history.clock + later) item else item) ↔
        if item.id = key then
          P (sinceAfter (history.clock + later) item (history.since item.id) change)
            (change.apply directory (history.clock + later) item)
        else P (history.since item.id) item := by
    rw [(sameSubject_changed directory _ item key change).id, since_change inside]
    split <;> rfl
  constructor
  · intro all item inside
    exact (moved item inside).mp (all _ (mem_changeItem.mpr ⟨item, inside, rfl⟩))
  · intro all item listed
    obtain ⟨source, inside, rfl⟩ := mem_changeItem.mp listed
    exact (moved source inside).mpr (all source inside)

theorem Recorded.step (recorded : Recorded history) (event : HistoryEvent) :
    Recorded (historyStep history event) := by
  cases event with
  | generate db assessment later =>
      constructor
      · intro item inside
        rcases mem_plan inside with old | ⟨measure, key, fresh, _, rfl⟩
        · exact (recorded.dated item old).later (Nat.le_add_right _ _)
        · have lasts : (historyStep history (.generate db assessment later)).since
              (newItem assessment measure (history.clock + later) key).id = none :=
            recorded.unborn key fresh
          rw [lasts]
          exact .undone (Nat.le_refl _) (by rintro ⟨⟩) rfl
      · intro key fresh
        have grown : (history.items, 0).1.next ≤ (generateActionPlan db history.items assessment
            (history.clock + later)).1.next := next_le_plan
        exact recorded.unborn key (grown.trans fresh)
  | change directory key change later =>
      constructor
      · refine forall_mem_change.mpr fun item inside => ?_
        split
        · exact (recorded.dated item inside).change (Nat.le_add_right _ _) directory change
        · exact (recorded.dated item inside).later (Nat.le_add_right _ _)
      · intro other fresh
        have unborn : history.since other = none := recorded.unborn other fresh
        rw [historyStep]
        dsimp only
        cases present : history.items.find? key with
        | none => exact unborn
        | some found =>
            obtain ⟨member, same⟩ := Table.find?_eq_some_iff.mp present
            have older : ident found < history.items.next := history.items.allocated found member
            have bound : history.items.next ≤ other := fresh
            have apart : other ≠ key := by omega
            exact (Function.update_of_ne apart _ _).trans unborn

theorem recorded_empty (clock : Nat) : Recorded (.empty clock) :=
  ⟨fun _ absent => absurd absent List.not_mem_nil, fun _ _ => rfl⟩

end Records

/-! ### Days -/

/-- The current period of an item began on the day of its completion. -/
def SameDay (calendar : Calendar) (since : Option Nat) (item : ActionItem) : Prop :=
  ∀ began completed, since = some began → item.completedAt = some completed →
    calendar.dayOf began = calendar.dayOf completed

def Aligned (calendar : Calendar) (history : History) : Prop :=
  ∀ item ∈ history.items, SameDay calendar (history.since item.id) item

section Days

variable {calendar : Calendar} {history : History} {item : ActionItem} {since : Option Nat}
  {tenant moment : Nat}

theorem doneBy_of_completed (dated : Dated history.clock since item)
    (ended : item.completedAt.any (· ≤ moment) = true) : since.any (· ≤ moment) = true := by
  obtain ⟨completed, held, before⟩ := (Option.any_eq_true _ _).mp ended
  have lasts : since.isSome = true := by rw [dated.lasting, held]; rfl
  obtain ⟨began, lasts⟩ := Option.isSome_iff_exists.mp lasts
  rw [decide_eq_true_eq] at before
  have earlier := dated.began began completed lasts held
  rw [lasts, Option.any_some, decide_eq_true_eq]
  omega

/-- A curve is right where each period began on the day of the completion, and only there. -/
theorem completedBy_eq_doneBy_iff (recorded : Recorded history) :
    (∀ tenant day, completedBy history.items tenant (calendar.endOf day) =
        history.doneBy tenant (calendar.endOf day)) ↔ Aligned calendar history := by
  have within (tenant day : Nat) : completedBy history.items tenant (calendar.endOf day) =
        history.doneBy tenant (calendar.endOf day) ↔
      ∀ item ∈ ofTenant history.items tenant,
        (history.since item.id).any (· ≤ calendar.endOf day) = true →
          item.completedAt.any (· ≤ calendar.endOf day) = true :=
    countP_eq_iff_of_imp fun item listed =>
      doneBy_of_completed (recorded.dated item (List.mem_filter.mp listed).1)
  simp only [within]
  constructor
  · intro ends item inside began completed lasts ended
    have mine : item ∈ ofTenant history.items item.tenant :=
      List.mem_filter.mpr ⟨inside, decide_eq_true rfl⟩
    have late := ends item.tenant (calendar.dayOf began) item mine
    rw [lasts, ended] at late
    simp only [Option.any_some, decide_eq_true_eq, Calendar.le_endOf_iff_dayOf_le] at late
    have earlier := (recorded.dated item inside).began began completed lasts ended
    exact Nat.le_antisymm (Calendar.dayOf_mono earlier) (late le_rfl)
  · intro aligned tenant day item listed begun
    have inside : item ∈ history.items := (List.mem_filter.mp listed).1
    obtain ⟨began, lasts, before⟩ := (Option.any_eq_true _ _).mp begun
    have ends : item.completedAt.isSome = true := by
      rw [← (recorded.dated item inside).lasting, lasts]
      rfl
    obtain ⟨completed, ended⟩ := Option.isSome_iff_exists.mp ends
    have same := aligned item inside began completed lasts ended
    rw [decide_eq_true_eq, Calendar.le_endOf_iff_dayOf_le] at before
    rw [ended, Option.any_some, decide_eq_true_eq, Calendar.le_endOf_iff_dayOf_le]
    omega

/-- What is completed was created. -/
theorem completedBy_le_createdBy (recorded : Recorded history) :
    completedBy history.items tenant moment ≤ createdBy history.items tenant moment := by
  refine List.countP_mono_left fun item listed ended => ?_
  obtain ⟨completed, held, before⟩ := (Option.any_eq_true _ _).mp ended
  have dated := recorded.dated item (List.mem_filter.mp listed).1
  have created := (dated.completed completed held).1
  rw [decide_eq_true_eq] at before ⊢
  omega

theorem completedBy_of_clock_le (recorded : Recorded history) (le : history.clock ≤ moment) :
    completedBy history.items tenant moment =
      (ofTenant history.items tenant).countP fun item => item.status = .done := by
  refine List.countP_congr fun item listed => ?_
  have dated := recorded.dated item (List.mem_filter.mp listed).1
  rw [decide_eq_true_eq, dated.done]
  cases held : item.completedAt with
  | none => exact Iff.rfl
  | some completed =>
      have ended := (dated.completed completed held).2
      exact iff_of_true (decide_eq_true (ended.trans le)) rfl

theorem createdBy_of_clock_le (recorded : Recorded history) (le : history.clock ≤ moment) :
    createdBy history.items tenant moment = (ofTenant history.items tenant).length := by
  refine List.countP_eq_length.mpr fun item listed => ?_
  exact decide_eq_true ((recorded.dated item (List.mem_filter.mp listed).1).created.trans le)

/-- Only the points of the days can go wrong. -/
theorem curveHolds_iff (recorded : Recorded history) :
    CurveHolds calendar history ↔ Aligned calendar history := by
  rw [← completedBy_eq_doneBy_iff recorded]
  constructor
  · intro curve tenant day
    have shown := curve.points tenant ⟨"custom", "Période personnalisée", day, day, le_rfl⟩
    rw [points_actionPlanSeries, List.map_inj_left] at shown
    have here := shown day (Reporting.mem_dayList.mpr ⟨le_rfl, le_rfl⟩)
    exact (Prod.mk.inj (Prod.mk.inj here).2).1
  · intro same
    refine ⟨fun tenant period => ?_, fun tenant period point listed => ?_,
      fun tenant period db today reached => ?_⟩
    · rw [points_actionPlanSeries]
      refine List.map_congr_left fun day _ => ?_
      rw [same]
    · have shown := List.mem_map_of_mem (f := fun point : PlanPoint =>
        (point.date, point.done, point.total)) listed
      rw [points_actionPlanSeries] at shown
      obtain ⟨day, _, values⟩ := List.mem_map.mp shown
      have done : completedBy history.items tenant _ = point.done :=
        (Prod.mk.inj (Prod.mk.inj values).2).1
      have total : createdBy history.items tenant _ = point.total :=
        (Prod.mk.inj (Prod.mk.inj values).2).2
      rw [← done, ← total]
      exact completedBy_le_createdBy recorded
    · have shown : ((actionPlanSeries calendar history.items tenant period).map fun point =>
          (point.date, point.done, point.total)).getLast? = _ :=
        congrArg List.getLast? points_actionPlanSeries
      rw [List.getLast?_map, List.getLast?_map, Reporting.getLast?_dayList] at shown
      have values := congrArg (Option.map Prod.snd) shown
      rw [Option.map_map] at values
      have done : completedBy history.items tenant (period.end calendar) = _ :=
        completedBy_of_clock_le recorded reached
      have total : createdBy history.items tenant (period.end calendar) = _ :=
        createdBy_of_clock_le recorded reached
      exact values.trans (congrArg some (Prod.ext done total))

/-! ### One event -/

theorem sameDay_change_iff (same : SameDay calendar since item)
    (dated : Dated moment since item) (directory : Directory) (change : ItemChange) {now : Nat} :
    SameDay calendar (sinceAfter now item since change) (change.apply directory now item) ↔
      (change = .status .done → item.status = .done →
        ∀ completed, item.completedAt = some completed →
          calendar.dayOf now = calendar.dayOf completed) := by
  cases change with
  | status value =>
      cases value with
      | todo => exact iff_of_true (by rintro _ _ ⟨⟩) (by rintro ⟨⟩)
      | inProgress => exact iff_of_true (by rintro _ _ ⟨⟩) (by rintro ⟨⟩)
      | done =>
          rw [imp_iff_right rfl, sinceAfter]
          split
          · rename_i again
            obtain ⟨completed, held⟩ := Option.isSome_iff_exists.mp (dated.done.mp again)
            obtain ⟨began, lasts⟩ : ∃ began, since = some began := by
              rw [← Option.isSome_iff_exists, dated.lasting, held]
              rfl
            have day := same began completed lasts held
            constructor
            · rintro after - other ended
              rw [held] at ended
              cases ended
              rw [← day]
              exact (after began now lasts rfl).symm
            · intro again' other ended begun finish
              cases finish
              rw [lasts] at begun
              cases begun
              rw [day]
              exact (again' again completed held).symm
          · rename_i opened
            refine iff_of_true ?_ fun done => absurd done opened
            rintro _ _ ⟨⟩ ⟨⟩
            rfl
  | assignee user =>
      refine iff_of_true ?_ (by rintro ⟨⟩)
      rw [ItemChange.apply]
      split
      · rename_i accepted
        rw [assignActionItem_ok accepted]
        exact same
      · exact same
  | note text => exact iff_of_true same (by rintro ⟨⟩)
  | dueDate day => exact iff_of_true same (by rintro ⟨⟩)

theorem saidAgainSameDay_change_iff {directory : Directory} {key later : Nat}
    {change : ItemChange} :
    SaidAgainSameDay calendar history (.change directory key change later) ↔
      ∀ item ∈ history.items, item.id = key → change = .status .done → item.status = .done →
        ∀ completed, item.completedAt = some completed →
          calendar.dayOf (history.clock + later) = calendar.dayOf completed := by
  cases change with
  | status value =>
      cases value with
      | done => exact forall₃_congr fun _ _ _ => (imp_iff_right rfl).symm
      | todo => exact iff_of_true trivial (by rintro _ _ _ ⟨⟩)
      | inProgress => exact iff_of_true trivial (by rintro _ _ _ ⟨⟩)
  | assignee user => exact iff_of_true trivial (by rintro _ _ _ ⟨⟩)
  | note text => exact iff_of_true trivial (by rintro _ _ _ ⟨⟩)
  | dueDate day => exact iff_of_true trivial (by rintro _ _ _ ⟨⟩)

theorem aligned_step_iff (recorded : Recorded history) (aligned : Aligned calendar history)
    (event : HistoryEvent) :
    Aligned calendar (historyStep history event) ↔ SaidAgainSameDay calendar history event := by
  cases event with
  | generate db assessment later =>
      refine iff_of_true (fun item inside => ?_) trivial
      rcases mem_plan inside with old | ⟨measure, key, fresh, _, rfl⟩
      · exact aligned item old
      · rintro _ _ _ ⟨⟩
  | change directory key change later =>
      rw [saidAgainSameDay_change_iff, Aligned, forall_mem_change]
      refine forall₂_congr fun item inside => ?_
      split
      · rename_i mine
        rw [sameDay_change_iff (aligned item inside) (recorded.dated item inside),
          forall_prop_of_true mine]
      · rename_i other
        exact iff_of_true (aligned item inside) fun mine => absurd mine other

end Days

/-! ## Whole histories -/

/-- In every history the curves are right in each state exactly where no item that is done is
said to be done again on a later day. -/
theorem curves_hold_iff (calendar : Calendar) (clock : Nat) (events : List HistoryEvent) :
    Always historyStep (CurveHolds calendar) (.empty clock) events ↔
      EachStep historyStep (SaidAgainSameDay calendar) (.empty clock) events := by
  have exact_step (history : History) (event : HistoryEvent) (recorded : Recorded history)
      (curve : CurveHolds calendar history) :
      CurveHolds calendar (historyStep history event) ↔
        SaidAgainSameDay calendar history event := by
    rw [curveHolds_iff (recorded.step event)]
    exact aligned_step_iff recorded ((curveHolds_iff recorded).mp curve) event
  refine always_iff_eachStep (fun _ event recorded => recorded.step event) exact_step
    (recorded_empty clock) ?_ events
  exact (curveHolds_iff (recorded_empty clock)).mpr fun _ absent => absurd absent List.not_mem_nil

/-! A gap is done on the tenth day, and said to be done again on the next one. -/

def doneOnceMore : List HistoryEvent :=
  [.generate audit audited (10 * microsecondsOfDay),
    .change ⟨.empty, .empty⟩ 0 (.status .done) 0,
    .change ⟨.empty, .empty⟩ 0 (.status .done) microsecondsOfDay]

theorem said_again_moves_the_curve :
    ¬ Always historyStep (CurveHolds universalCalendar) (.empty 0) doneOnceMore := by
  intro always
  let tenth : Period := ⟨"custom", "Période personnalisée", 10, 10, Nat.le_refl 10⟩
  let history := after historyStep (.empty 0) doneOnceMore
  have shown : (actionPlanSeries universalCalendar history.items 0 tenth).map
      (fun point => (point.date, point.done, point.total)) = [(10, 0, 1)] := by decide +kernel
  have held : (tenth.dayList.map fun day =>
      (day, history.doneBy 0 (universalCalendar.endOf day),
        createdBy history.items 0 (universalCalendar.endOf day))) = [(10, 1, 1)] := by
    decide +kernel
  have same := always.last.points 0 tenth
  rw [shown, held] at same
  cases same

end RssiService.Actions
