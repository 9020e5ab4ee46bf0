import Mathlib.Data.List.Dedup
import RssiService.Monitoring.Outages

/-!
# The window of a certificate

The alert of a certificate is open from a first result at or under the largest
threshold until a result above it.  In between it notifies each threshold once,
and is only rewritten when it does.
-/

namespace RssiService.Monitoring

open Foundation Foundation.Run Foundation.Spell

/-! ## Known days -/

/-- The days left that a run reports of the certificate of an asset. -/
def Run.daysLeft (run : Run) (asset : Nat) : Option Int :=
  if run.asset.id = asset ∧ run.check.type = .sslCertificate then run.outcome.details.daysLeft
  else none

/-- The days left that were known of the certificate of an asset, in order. -/
def knownDays (results : Table CheckResult) (asset : Nat) : List Int :=
  results.rows.filterMap fun result =>
    if result.asset = asset ∧ result.checkType = .sslCertificate then result.details.daysLeft
    else none

def largestThreshold : Int := 30

/-- The days known since the last ones above the largest threshold. -/
def window (days : List Int) : List Int :=
  (days.reverse.takeWhile (· ≤ largestThreshold)).reverse

/-- The severity that some days left imply. -/
def sslSeverity (daysLeft : Int) : AlertSeverity :=
  if daysLeft ≤ 7 then .critical else .warning

/-- The days are the first ones of the window at or under the threshold. -/
def FirstUnder (days : List Int) (daysLeft threshold : Int) : Prop :=
  daysLeft ≤ threshold ∧ ∀ earlier ∈ window days, threshold < earlier

instance (days : List Int) (daysLeft threshold : Int) :
    Decidable (FirstUnder days daysLeft threshold) :=
  inferInstanceAs (Decidable (_ ∧ _))

section Days

variable {days : List Int} {daysLeft : Int}

theorem window_append_of_le (soon : daysLeft ≤ largestThreshold) :
    window (days ++ [daysLeft]) = window days ++ [daysLeft] := by
  rw [window, List.reverse_concat, List.takeWhile_cons, if_pos (decide_eq_true soon),
    List.reverse_cons, window]

theorem window_append_of_lt (renewed : largestThreshold < daysLeft) :
    window (days ++ [daysLeft]) = [] := by
  rw [window, List.reverse_concat, List.takeWhile_cons, if_neg (by simpa using renewed),
    List.reverse_nil]

/-- The last days of a window are the last ones known. -/
theorem getLast?_window (filled : window days ≠ []) : (window days).getLast? = days.getLast? := by
  rw [window, List.getLast?_reverse, ← List.head?_reverse]
  rw [window, ne_eq, List.reverse_eq_nil_iff] at filled
  cases reversed : days.reverse with
  | nil => rfl
  | cons last rest =>
      rw [reversed] at filled
      rw [List.takeWhile_cons] at filled ⊢
      split at filled
      · rename_i soon
        rw [if_pos soon]
        rfl
      · exact absurd rfl filled

theorem knownDays_runCheck (store : Store) (run : Run) (asset : Nat) :
    knownDays (store.runCheck run).results asset =
      knownDays store.results asset ++ (run.daysLeft asset).toList := by
  have last : (if (run.result store.results.next).asset = asset ∧
        (run.result store.results.next).checkType = .sslCertificate then
      (run.result store.results.next).details.daysLeft else none) = run.daysLeft asset := rfl
  rw [knownDays, results_runCheck, List.filterMap_append, knownDays, List.filterMap_cons, last]
  cases run.daysLeft asset <;> rfl

end Days

/-! ## One result -/

/-- What the evaluation of a certificate result comes to. -/
inductive SslCourse (now : Nat) (alerts : Table Alert) (asset : Asset) (details : Details) :
    Evaluation → Prop where
  | unknown (absent : details.daysLeft = none) :
      SslCourse now alerts asset details (alerts, none)
  | renewed (daysLeft : Int) (known : details.daysLeft = some daysLeft)
      (enough : largestThreshold < daysLeft) :
      SslCourse now alerts asset details (resolveAlert now alerts asset.id .sslExpiring, none)
  | told (daysLeft : Int) (known : details.daysLeft = some daysLeft)
      (soon : daysLeft ≤ largestThreshold)
      (covered : ∀ threshold ∈ sslNotifyThresholds, daysLeft ≤ threshold →
        threshold ∈ alreadyNotified (findOpen alerts asset.id .sslExpiring)) :
      SslCourse now alerts asset details (alerts, none)
  | crossing (daysLeft : Int) (known : details.daysLeft = some daysLeft)
      (soon : daysLeft ≤ largestThreshold) (notified : List Int)
      (crossed : ∃ threshold ∈ sslNotifyThresholds, daysLeft ≤ threshold ∧
        threshold ∉ alreadyNotified (findOpen alerts asset.id .sslExpiring))
      (marks : ∀ threshold, threshold ∈ notified ↔
        threshold ∈ alreadyNotified (findOpen alerts asset.id .sslExpiring) ∨
          threshold ∈ sslNotifyThresholds ∧ daysLeft ≤ threshold)
      (opened : Table Alert × Alert × Bool)
      (opens : opened = openOrUpdateAlert now alerts asset .sslExpiring (sslSeverity daysLeft)
        (.sslExpiring daysLeft details.expiresAt notified)) :
      SslCourse now alerts asset details (opened.1, some opened.2.1)

section Evaluation

variable {now : Nat} {store : Store} {alerts : Table Alert} {asset : Asset} {run : Run} {key : Nat}
  {details : Details}

theorem evaluateSslAlert_course (now : Nat) (alerts : Table Alert) (asset : Asset)
    (details : Details) :
    SslCourse now alerts asset details (evaluateSslAlert now alerts asset details) := by
  rw [evaluateSslAlert]
  cases known : details.daysLeft with
  | none => exact .unknown known
  | some daysLeft =>
      dsimp only
      split
      · rename_i enough
        exact .renewed daysLeft known enough
      · rename_i few
        have soon : daysLeft ≤ largestThreshold := Int.not_lt.mp few
        split
        · rename_i nothing
          refine .told daysLeft known soon fun threshold listed under => ?_
          by_contra fresh
          have crossed := List.filter_eq_nil_iff.mp nothing threshold listed
          simp [under, fresh] at crossed
        · rename_i something
          refine .crossing daysLeft known soon _ ?_ ?_ _ rfl
          · obtain ⟨threshold, inside⟩ := List.exists_mem_of_ne_nil _ something
            obtain ⟨listed, both⟩ := List.mem_filter.mp inside
            refine ⟨threshold, listed, ?_⟩
            simpa using both
          · intro threshold
            rw [List.mem_insertionSort, List.mem_dedup, List.mem_append, List.mem_filter]
            by_cases already : threshold ∈ alreadyNotified (findOpen alerts asset.id .sslExpiring)
            · exact iff_of_true (Or.inl already) (Or.inl already)
            · simp [already]

/-- What a certificate check of an asset does. -/
theorem sslCourse_runCheck (store : Store) (type : run.check.type = .sslCertificate) :
    SslCourse run.now store.alerts run.asset run.outcome.details
      ((store.runCheck run).alerts, store.notice run) := by
  let recorded : Store := { store with results := (store.runCheck run).results }
  have evaluated : ((store.runCheck run).alerts, store.notice run) =
      evaluateAlerts run.now recorded run.asset run.check.type run.outcome.status
        run.outcome.details := rfl
  rw [evaluated, type]
  exact evaluateSslAlert_course _ _ _ _

end Evaluation

/-! ## The open alert -/

section Alerts

variable {now : Nat} {alerts after : Table Alert} {asset : Asset} {alertType : AlertType}
  {first second alert : Alert} {key : Nat}

/-- Two open alerts of one asset and type are one alert. -/
theorem OneOpen.unique (one : OneOpen alerts) (inFirst : first ∈ alerts)
    (firstOpen : first.openFor key alertType = true) (inSecond : second ∈ alerts)
    (secondOpen : second.openFor key alertType = true) : first = second := by
  have few := one key alertType
  rw [List.countP_eq_length_filter] at few
  have listedFirst := List.mem_filter.mpr ⟨inFirst, firstOpen⟩
  have listedSecond := List.mem_filter.mpr ⟨inSecond, secondOpen⟩
  rcases Nat.le_one_iff_eq_zero_or_eq_one.mp few with none | one
  · rw [List.length_eq_zero_iff.mp none] at listedFirst
    cases listedFirst
  · obtain ⟨only, single⟩ := List.length_eq_one_iff.mp one
    rw [single, List.mem_singleton] at listedFirst listedSecond
    exact listedFirst.trans listedSecond.symm

theorem OneOpen.findOpen_eq (one : OneOpen alerts) (inside : alert ∈ alerts)
    (isOpen : alert.openFor key alertType = true) : findOpen alerts key alertType = some alert := by
  cases found : findOpen alerts key alertType with
  | none =>
      rw [findOpen_eq_none.mp found alert inside] at isOpen
      cases isOpen
  | some standing =>
      obtain ⟨member, standingOpen⟩ := mem_of_findOpen found
      rw [one.unique member standingOpen inside isOpen]

/-- The alert that an opening leaves open is the one it returns. -/
theorem OneOpen.eq_opened (one : OneOpen alerts) {severity : AlertSeverity} {details : AlertDetails}
    (inside : alert ∈ (openOrUpdateAlert now alerts asset alertType severity details).1)
    (isOpen : alert.openFor asset.id alertType = true) :
    alert = (openOrUpdateAlert now alerts asset alertType severity details).2.1 := by
  have opened : OpenedAs alerts asset alertType severity details
      (openOrUpdateAlert now alerts asset alertType severity details) := openOrUpdateAlert_spec
  exact (OneOpen.openOrUpdate one).unique inside isOpen
    ((opened.rows _).mpr (Or.inr rfl)) opened.openFor

/-- An evaluation opens no alert of another asset or type, and changes none. -/
theorem EvaluatedTo.mem_of_ne (evaluated : EvaluatedTo now alerts asset alertType after)
    {otherType : AlertType} (apart : ¬ (asset.id = key ∧ alertType = otherType))
    (inside : alert ∈ after) (isOpen : alert.openFor key otherType = true) : alert ∈ alerts := by
  cases evaluated with
  | kept => exact inside
  | resolved =>
      obtain ⟨source, old, rfl⟩ := Table.mem_updateWhere.mp inside
      split at isOpen
      · simp [Alert.openFor] at isOpen
      · rename_i untouched
        rwa [if_neg untouched]
  | opened severity details =>
      have opened : OpenedAs alerts asset alertType severity details
          (openOrUpdateAlert now alerts asset alertType severity details) := openOrUpdateAlert_spec
      rcases (opened.rows alert).mp inside with ⟨old, _⟩ | rfl
      · exact old
      · obtain ⟨sameAsset, sameType, _⟩ := openFor_iff.mp opened.openFor
        obtain ⟨isAsset, isType, _⟩ := openFor_iff.mp isOpen
        exact absurd ⟨sameAsset.symm.trans isAsset, sameType.symm.trans isType⟩ apart

end Alerts

/-! ## What an open alert holds -/

/-- The thresholds that an alert has notified are those that its window has reached. -/
structure Marks (days : List Int) (alert : Alert) : Prop where
  details : ∃ daysLeft expiresAt notified, alert.details = .sslExpiring daysLeft expiresAt notified
  notified : ∀ threshold, threshold ∈ alreadyNotified (some alert) ↔
    threshold ∈ sslNotifyThresholds ∧ ∃ daysLeft ∈ window days, daysLeft ≤ threshold

/-- The alert of a certificate is open while its window is not empty. -/
structure Windowed (asset : Nat) (store : Store) : Prop where
  one : OneOpen store.alerts
  open_iff : HasOpen store.alerts asset .sslExpiring ↔ window (knownDays store.results asset) ≠ []
  marks : ∀ alert ∈ store.alerts, alert.openFor asset .sslExpiring = true →
    Marks (knownDays store.results asset) alert

/-- The alert tells what the last known days left imply. -/
def Tells (days : List Int) (alert : Alert) : Prop :=
  ∃ daysLeft expiresAt notified, days.getLast? = some daysLeft ∧
    alert.severity = sslSeverity daysLeft ∧
      alert.details = .sslExpiring daysLeft expiresAt notified

/-- The run notifies a threshold that the open alert had not notified. -/
def NotifiesThreshold (asset : Nat) (threshold : Int) (store : Store) (run : Run) : Prop :=
  ∃ alert, store.notice run = some alert ∧ alert.openFor asset .sslExpiring = true ∧
    threshold ∈ alreadyNotified (some alert) ∧
      threshold ∉ alreadyNotified (findOpen store.alerts asset .sslExpiring)

/-- The first days left at or under a threshold notify it. -/
def NotifiesFirst (asset : Nat) (store : Store) (run : Run) : Prop :=
  ∀ daysLeft, run.daysLeft asset = some daysLeft → ∀ threshold ∈ sslNotifyThresholds,
    FirstUnder (knownDays store.results asset) daysLeft threshold →
      NotifiesThreshold asset threshold store run

/-- An open alert is resolved by the days left above the largest threshold alone. -/
def ResolvedAbove (asset : Nat) (store : Store) (run : Run) : Prop :=
  HasOpen store.alerts asset .sslExpiring →
    (¬ HasOpen (store.runCheck run).alerts asset .sslExpiring ↔
      ∃ daysLeft, run.daysLeft asset = some daysLeft ∧ largestThreshold < daysLeft)

/-- Every open alert of the certificate tells what the last known days left imply. -/
def TellsLast (asset : Nat) (store : Store) : Prop :=
  ∀ alert ∈ store.alerts, alert.openFor asset .sslExpiring = true →
    Tells (knownDays store.results asset) alert

/-- Days left within the window repeat the last ones, or are the first ones at or under
some threshold. -/
def RepeatsOrCrosses (asset : Nat) (store : Store) (run : Run) : Prop :=
  ∀ daysLeft, run.daysLeft asset = some daysLeft → daysLeft ≤ largestThreshold →
    ∀ last, (window (knownDays store.results asset)).getLast? = some last →
      daysLeft = last ∨ ∃ threshold ∈ sslNotifyThresholds,
        FirstUnder (knownDays store.results asset) daysLeft threshold

section Steps

variable {store : Store} {run : Run} {asset : Nat} {threshold : Int}

theorem Windowed.already (windowed : Windowed asset store) :
    threshold ∈ alreadyNotified (findOpen store.alerts asset .sslExpiring) ↔
      threshold ∈ sslNotifyThresholds ∧
        ∃ daysLeft ∈ window (knownDays store.results asset), daysLeft ≤ threshold := by
  cases found : findOpen store.alerts asset .sslExpiring with
  | none =>
      have empty : window (knownDays store.results asset) = [] := by
        by_contra filled
        have isOpen := hasOpen_iff_findOpen.mp (windowed.open_iff.mpr filled)
        rw [found] at isOpen
        cases isOpen
      rw [empty]
      exact iff_of_false List.not_mem_nil (by simp)
  | some standing =>
      obtain ⟨member, isOpen⟩ := mem_of_findOpen found
      exact (windowed.marks standing member isOpen).notified threshold

theorem daysLeft_of_not_certifies
    (other : ¬ (run.asset.id = asset ∧ run.check.type = .sslCertificate)) :
    run.daysLeft asset = none :=
  if_neg other

theorem apart_of_not_certifies
    (other : ¬ (run.asset.id = asset ∧ run.check.type = .sslCertificate)) :
    ¬ (run.asset.id = asset ∧ run.check.type.alertType = .sslExpiring) :=
  fun same => other ⟨same.1, CheckType.alertType_injective same.2⟩

theorem Windowed.runCheck (windowed : Windowed asset store) :
    Windowed asset (store.runCheck run) := by
  have one : OneOpen (store.runCheck run).alerts :=
    windowed.one.evaluated (evaluatedTo_runCheck store run)
  have days := knownDays_runCheck store run asset
  by_cases mine : run.asset.id = asset ∧ run.check.type = .sslCertificate
  · obtain ⟨rfl, type⟩ := mine
    have reported : run.daysLeft run.asset.id = run.outcome.details.daysLeft := if_pos ⟨rfl, type⟩
    have course := sslCourse_runCheck store type
    rw [reported] at days
    refine ⟨one, ?_, ?_⟩
    all_goals
      rw [days]
      generalize (store.runCheck run).alerts = alerts at course one ⊢
      generalize store.notice run = notice at course
    · cases course with
      | unknown absent =>
          rw [absent, Option.toList_none, List.append_nil]
          exact windowed.open_iff
      | renewed daysLeft known enough =>
          rw [known, Option.toList_some, window_append_of_lt enough]
          exact iff_of_false not_hasOpen_resolveAlert (by simp)
      | told daysLeft known soon covered =>
          rw [known, Option.toList_some, window_append_of_le soon]
          refine iff_of_true (windowed.open_iff.mpr fun empty => ?_) (by simp)
          have marked := windowed.already.mp (covered _ List.mem_cons_self soon)
          rw [empty] at marked
          simp at marked
      | crossing daysLeft known soon notified crossed marks opened opens =>
          rw [known, Option.toList_some, window_append_of_le soon, opens]
          exact iff_of_true (hasOpen_openOrUpdateAlert.mpr (Or.inr ⟨rfl, rfl⟩)) (by simp)
    · cases course with
      | unknown absent =>
          rw [absent, Option.toList_none, List.append_nil]
          exact windowed.marks
      | renewed daysLeft known enough =>
          intro alert inside isOpen
          exact absurd ⟨alert, inside, isOpen⟩ not_hasOpen_resolveAlert
      | told daysLeft known soon covered =>
          rw [known, Option.toList_some]
          intro alert inside isOpen
          have marked := windowed.marks alert inside isOpen
          have standing := windowed.one.findOpen_eq inside isOpen
          refine ⟨marked.details, fun threshold => ?_⟩
          rw [window_append_of_le soon, marked.notified]
          refine and_congr_right fun listed => ?_
          constructor
          · rintro ⟨earlier, inWindow, under⟩
            exact ⟨earlier, List.mem_append_left _ inWindow, under⟩
          · rintro ⟨other, inWindow, under⟩
            rcases List.mem_append.mp inWindow with earlier | new
            · exact ⟨other, earlier, under⟩
            · rw [List.mem_singleton.mp new] at under
              exact (windowed.already.mp (covered threshold listed under)).2
      | crossing daysLeft known soon notified crossed marks opened opens =>
          rw [known, Option.toList_some]
          intro alert inside isOpen
          rw [opens] at inside
          have same := windowed.one.eq_opened inside isOpen
          have details : alert.details =
              .sslExpiring daysLeft run.outcome.details.expiresAt notified := by
            rw [same]
            exact openOrUpdateAlert_spec.details_eq
          refine ⟨⟨_, _, _, details⟩, fun threshold => ?_⟩
          have told : threshold ∈ alreadyNotified (some alert) ↔ threshold ∈ notified := by
            rw [alreadyNotified, Option.map_some, details]
          rw [told, marks, windowed.already, ← and_or_left, window_append_of_le soon]
          simp only [List.mem_append, List.mem_singleton, or_and_right, exists_or, exists_eq_left]
  · rw [daysLeft_of_not_certifies mine, Option.toList_none, List.append_nil] at days
    have apart := apart_of_not_certifies mine
    have evaluated := evaluatedTo_runCheck store run
    refine ⟨one, ?_, ?_⟩
    · rw [days, evaluated.hasOpen_of_ne apart]
      exact windowed.open_iff
    · rw [days]
      intro alert inside isOpen
      exact windowed.marks alert (evaluated.mem_of_ne apart inside isOpen) isOpen

theorem le_largestThreshold (listed : threshold ∈ sslNotifyThresholds) :
    threshold ≤ largestThreshold := by
  have each : ∀ threshold ∈ sslNotifyThresholds, threshold ≤ largestThreshold := by decide
  exact each threshold listed

theorem certifies_of_daysLeft {daysLeft : Int} (reported : run.daysLeft asset = some daysLeft) :
    run.asset.id = asset ∧ run.check.type = .sslCertificate ∧
      run.outcome.details.daysLeft = some daysLeft := by
  rw [Run.daysLeft] at reported
  split at reported
  · rename_i mine
    exact ⟨mine.1, mine.2, reported⟩
  · cases reported

/-- A threshold is notified by the first days left at or under it. -/
theorem notifiesThreshold_iff (windowed : Windowed asset store) :
    NotifiesThreshold asset threshold store run ↔
      ∃ daysLeft, run.daysLeft asset = some daysLeft ∧ threshold ∈ sslNotifyThresholds ∧
        FirstUnder (knownDays store.results asset) daysLeft threshold := by
  constructor
  · rintro ⟨alert, notified, isOpen, marked, fresh⟩
    obtain ⟨mine, isType, _⟩ := openFor_iff.mp (openFor_of_notice notified)
    obtain ⟨same, isSsl, _⟩ := openFor_iff.mp isOpen
    obtain rfl : run.asset.id = asset := mine.symm.trans same
    have type : run.check.type = .sslCertificate :=
      CheckType.alertType_injective (isType.symm.trans isSsl)
    have reported : run.daysLeft run.asset.id = run.outcome.details.daysLeft := if_pos ⟨rfl, type⟩
    have course := sslCourse_runCheck store type
    rw [notified] at course
    generalize (store.runCheck run).alerts = alerts at course
    cases course with
    | crossing daysLeft known soon thresholds crossed marks opened opens =>
        have details : alreadyNotified (some opened.2.1) = thresholds := by
          rw [alreadyNotified, Option.map_some, opens, openOrUpdateAlert_spec.details_eq]
        rw [details] at marked
        obtain ⟨listed, under⟩ := ((marks threshold).mp marked).resolve_left fresh
        refine ⟨daysLeft, reported.trans known, listed, under, fun earlier inWindow => ?_⟩
        by_contra reached
        exact fresh (windowed.already.mpr ⟨listed, earlier, inWindow, Int.not_lt.mp reached⟩)
  · rintro ⟨daysLeft, reported, listed, under, first⟩
    obtain ⟨rfl, type, known⟩ := certifies_of_daysLeft reported
    have fresh : threshold ∉ alreadyNotified (findOpen store.alerts run.asset.id .sslExpiring) := by
      intro already
      obtain ⟨_, earlier, inWindow, reached⟩ := windowed.already.mp already
      exact absurd reached (Int.not_le.mpr (first earlier inWindow))
    have course := sslCourse_runCheck store type
    rw [NotifiesThreshold]
    generalize (store.runCheck run).alerts = alerts at course
    generalize store.notice run = notice at course ⊢
    cases course with
    | unknown absent =>
        rw [absent] at known
        cases known
    | renewed other otherKnown enough =>
        obtain rfl := Option.some.inj (known.symm.trans otherKnown)
        exact absurd (Int.le_trans under (le_largestThreshold listed)) (Int.not_le.mpr enough)
    | told other otherKnown soon covered =>
        obtain rfl := Option.some.inj (known.symm.trans otherKnown)
        exact absurd (covered threshold listed under) fresh
    | crossing other otherKnown soon notified crossed marks opened opens =>
        obtain rfl := Option.some.inj (known.symm.trans otherKnown)
        refine ⟨_, rfl, ?_, ?_, fresh⟩
        · rw [opens]
          exact openOrUpdateAlert_spec.openFor
        · rw [alreadyNotified, Option.map_some, opens, openOrUpdateAlert_spec.details_eq]
          exact (marks threshold).mpr (Or.inr ⟨listed, under⟩)

theorem resolvedAbove_runCheck (windowed : Windowed asset store) :
    ResolvedAbove asset store run := by
  intro isOpen
  have filled := windowed.open_iff.mp isOpen
  rw [windowed.runCheck.open_iff, not_not, knownDays_runCheck]
  cases reported : run.daysLeft asset with
  | none =>
      rw [Option.toList_none, List.append_nil]
      exact iff_of_false filled (by simp)
  | some daysLeft =>
      rw [Option.toList_some]
      rcases Int.lt_or_le largestThreshold daysLeft with enough | soon
      · exact iff_of_true (window_append_of_lt enough) ⟨daysLeft, rfl, enough⟩
      · rw [window_append_of_le soon]
        refine iff_of_false (by simp) ?_
        rintro ⟨_, ⟨⟩, enough⟩
        exact absurd soon (Int.not_le.mpr enough)

/-- A threshold that is notified stays so while the alert is open. -/
theorem already_runCheck (windowed : Windowed asset store)
    (already : threshold ∈ alreadyNotified (findOpen store.alerts asset .sslExpiring))
    (isOpen : HasOpen (store.runCheck run).alerts asset .sslExpiring) :
    threshold ∈ alreadyNotified (findOpen (store.runCheck run).alerts asset .sslExpiring) := by
  obtain ⟨listed, earlier, inWindow, reached⟩ := windowed.already.mp already
  refine windowed.runCheck.already.mpr ⟨listed, earlier, ?_, reached⟩
  have filled := windowed.runCheck.open_iff.mp isOpen
  rw [knownDays_runCheck] at filled ⊢
  cases reported : run.daysLeft asset with
  | none => rwa [Option.toList_none, List.append_nil]
  | some daysLeft =>
      rw [reported, Option.toList_some] at filled
      rw [Option.toList_some]
      rcases Int.lt_or_le largestThreshold daysLeft with enough | soon
      · exact absurd (window_append_of_lt enough) filled
      · rw [window_append_of_le soon]
        exact List.mem_append_left _ inWindow

theorem tells_append_iff {days : List Int} {daysLeft : Int} {alert : Alert}
    (tells : Tells days alert) :
    Tells (days ++ [daysLeft]) alert ↔ days.getLast? = some daysLeft := by
  obtain ⟨last, expiresAt, notified, isLast, severity, details⟩ := tells
  rw [isLast]
  constructor
  · rintro ⟨other, otherExpiry, otherNotified, otherLast, _, otherDetails⟩
    rw [List.getLast?_concat] at otherLast
    obtain rfl := Option.some.inj otherLast
    cases details.symm.trans otherDetails
    rfl
  · rintro ⟨⟩
    exact ⟨daysLeft, expiresAt, notified, List.getLast?_concat, severity, details⟩

/-- The alert keeps telling what is known exactly where the new days left repeat the last
ones or cross a threshold. -/
theorem tellsLast_runCheck_iff (windowed : Windowed asset store) (tells : TellsLast asset store) :
    TellsLast asset (store.runCheck run) ↔ RepeatsOrCrosses asset store run := by
  have days := knownDays_runCheck store run asset
  rw [TellsLast, days]
  by_cases mine : run.asset.id = asset ∧ run.check.type = .sslCertificate
  · obtain ⟨rfl, type⟩ := mine
    have reported : run.daysLeft run.asset.id = run.outcome.details.daysLeft := if_pos ⟨rfl, type⟩
    have course := sslCourse_runCheck store type
    rw [RepeatsOrCrosses, reported]
    generalize (store.runCheck run).alerts = alerts at course ⊢
    generalize store.notice run = notice at course
    cases course with
    | unknown absent =>
        rw [absent, Option.toList_none, List.append_nil]
        exact iff_of_true tells (by rintro _ ⟨⟩)
    | renewed daysLeft known enough =>
        refine iff_of_true ?_ ?_
        · intro alert inside isOpen
          exact absurd ⟨alert, inside, isOpen⟩ not_hasOpen_resolveAlert
        · rw [known]
          rintro _ ⟨⟩ soon
          exact absurd soon (Int.not_le.mpr enough)
    | told daysLeft known soon covered =>
        have already := covered _ List.mem_cons_self soon
        obtain ⟨_, earlier, inWindow, _⟩ := windowed.already.mp already
        have filled := List.ne_nil_of_mem inWindow
        obtain ⟨standing, member, isOpen⟩ := windowed.open_iff.mpr filled
        have uncrossed : ¬ ∃ threshold ∈ sslNotifyThresholds,
            FirstUnder (knownDays store.results run.asset.id) daysLeft threshold := by
          rintro ⟨threshold, listed, under, first⟩
          obtain ⟨_, reached, inside, low⟩ := windowed.already.mp (covered threshold listed under)
          exact absurd low (Int.not_le.mpr (first reached inside))
        rw [known, Option.toList_some, getLast?_window filled]
        have repeated : (∀ alert ∈ store.alerts, alert.openFor run.asset.id .sslExpiring = true →
            Tells (knownDays store.results run.asset.id ++ [daysLeft]) alert) ↔
            (knownDays store.results run.asset.id).getLast? = some daysLeft := by
          constructor
          · intro each
            exact (tells_append_iff (tells standing member isOpen)).mp (each standing member isOpen)
          · intro last alert inside alertOpen
            exact (tells_append_iff (tells alert inside alertOpen)).mpr last
        rw [repeated]
        constructor
        · rintro same _ ⟨⟩ _ last isLast
          exact Or.inl (Option.some.inj (same.symm.trans isLast))
        · intro repeats
          obtain ⟨last, _, _, isLast, _⟩ := tells standing member isOpen
          rcases repeats daysLeft rfl soon last isLast with rfl | crossed
          · exact isLast
          · exact absurd crossed uncrossed
    | crossing daysLeft known soon notified crossed marks opened opens =>
        rw [known, Option.toList_some, opens]
        refine iff_of_true ?_ ?_
        · intro alert inside isOpen
          rw [windowed.one.eq_opened inside isOpen]
          exact ⟨daysLeft, _, _, List.getLast?_concat, openOrUpdateAlert_spec.severity_eq,
            openOrUpdateAlert_spec.details_eq⟩
        · rintro _ ⟨⟩ _ last _
          obtain ⟨threshold, listed, under, fresh⟩ := crossed
          refine Or.inr ⟨threshold, listed, under, fun earlier inWindow => ?_⟩
          by_contra reached
          exact fresh (windowed.already.mpr ⟨listed, earlier, inWindow, Int.not_lt.mp reached⟩)
  · rw [RepeatsOrCrosses, daysLeft_of_not_certifies mine, Option.toList_none, List.append_nil]
    have apart := apart_of_not_certifies mine
    refine iff_of_true ?_ (by rintro _ ⟨⟩)
    intro alert inside isOpen
    exact tells alert ((evaluatedTo_runCheck store run).mem_of_ne apart inside isOpen) isOpen

/-- A threshold that a run notifies stays notified while the alert is open. -/
theorem already_after (runs : List Run) {store : Store} {threshold : Int}
    (windowed : Windowed asset store)
    (already : threshold ∈ alreadyNotified (findOpen store.alerts asset .sslExpiring))
    (always : Always Store.runCheck (fun store => HasOpen store.alerts asset .sslExpiring)
      store runs) :
    threshold ∈ alreadyNotified
      (findOpen (after Store.runCheck store runs).alerts asset .sslExpiring) := by
  induction runs generalizing store with
  | nil => exact already
  | cons run rest ih =>
      exact ih windowed.runCheck (already_runCheck windowed already always.2.start) always.2

theorem already_of_notifies (windowed : Windowed asset store)
    (notifies : NotifiesThreshold asset threshold store run) :
    threshold ∈ alreadyNotified
      (findOpen (store.runCheck run).alerts asset .sslExpiring) := by
  obtain ⟨daysLeft, reported, listed, under, _⟩ := (notifiesThreshold_iff windowed).mp notifies
  refine windowed.runCheck.already.mpr ⟨listed, daysLeft, ?_, under⟩
  rw [knownDays_runCheck, reported, Option.toList_some,
    window_append_of_le (Int.le_trans under (le_largestThreshold listed))]
  exact List.mem_append_right _ (List.mem_singleton_self daysLeft)

end Steps

theorem windowed_empty (asset : Nat) : Windowed asset Store.empty where
  one _ _ := Nat.zero_le 1
  open_iff := by
    refine iff_of_false ?_ (fun filled => filled rfl)
    rintro ⟨alert, member, _⟩
    exact Table.not_mem_empty alert member
  marks alert member := absurd member (Table.not_mem_empty alert)

/-- Each threshold is notified at most once while the alert is open. -/
theorem threshold_once (runs : List Run) (asset : Nat) (threshold : Int) :
    OncePerSpell Store.runCheck (fun store => HasOpen store.alerts asset .sslExpiring)
      (NotifiesThreshold asset threshold) Store.empty runs := by
  rintro earlier first between second later rfl fired again always
  have windowed : Windowed asset (after Store.runCheck Store.empty earlier) :=
    (always_of_step (fun _ _ kept => Windowed.runCheck kept) (windowed_empty asset) earlier).last
  have already := already_after between windowed.runCheck
    (already_of_notifies windowed fired) always
  obtain ⟨_, _, _, _, fresh⟩ := again
  rw [after_append, after_cons] at fresh
  exact fresh already

/-- Over any sequence of checks, the alert of a certificate notifies each threshold once and as
soon as it is reached, is resolved above the largest one alone, and tells what the last known
days left imply exactly when each days left within its window repeat the last ones or cross a
threshold. -/
theorem certificate_alert_iff (runs : List Run) (asset : Nat) :
    ((∀ threshold, OncePerSpell Store.runCheck
          (fun store => HasOpen store.alerts asset .sslExpiring)
          (NotifiesThreshold asset threshold) Store.empty runs) ∧
        EachStep Store.runCheck (NotifiesFirst asset) Store.empty runs ∧
        EachStep Store.runCheck (ResolvedAbove asset) Store.empty runs ∧
        Always Store.runCheck (TellsLast asset) Store.empty runs) ↔
      EachStep Store.runCheck (RepeatsOrCrosses asset) Store.empty runs := by
  have standing : Always Store.runCheck (Windowed asset) Store.empty runs :=
    always_of_step (fun _ _ kept => Windowed.runCheck kept) (windowed_empty asset) runs
  have first : EachStep Store.runCheck (NotifiesFirst asset) Store.empty runs := by
    refine eachStep_of_always ?_ standing
    intro store run windowed daysLeft reported threshold listed under
    exact (notifiesThreshold_iff windowed).mpr ⟨daysLeft, reported, listed, under⟩
  have resolved : EachStep Store.runCheck (ResolvedAbove asset) Store.empty runs :=
    eachStep_of_always (P := Windowed asset) (fun _ _ kept => resolvedAbove_runCheck kept) standing
  have tells : TellsLast asset Store.empty := fun alert member =>
    absurd member (Table.not_mem_empty alert)
  rw [and_iff_right (fun threshold => threshold_once runs asset threshold), and_iff_right first,
    and_iff_right resolved]
  exact always_iff_eachStep (I := Windowed asset) (fun _ _ kept => kept.runCheck)
    (fun _ _ windowed => tellsLast_runCheck_iff windowed) (windowed_empty asset) tells runs

/-! A certificate renewed for twenty days with five of the old ones left. -/

def certificateCheck (now : Nat) (daysLeft : Int) : Run :=
  { now, asset := shopSite
    check := .sslCertificate (.answered (some ⟨"2026-12-31", daysLeft, "Let's Encrypt"⟩)) }

/-- Its alert stays critical, with five days left. -/
theorem short_renewal_stays_critical :
    ¬ Always Store.runCheck (TellsLast 1) Store.empty
        [certificateCheck 0 5, certificateCheck 5 20] := by
  rintro ⟨_, tells, told⟩
  have windowed : Windowed 1 (Store.empty.runCheck (certificateCheck 0 5)) :=
    (windowed_empty 1).runCheck
  have last : window (knownDays (Store.empty.runCheck (certificateCheck 0 5)).results 1) = [5] := by
    decide +kernel
  have repeats := (tellsLast_runCheck_iff windowed tells).mp told 20 rfl (by decide) 5
  rw [last] at repeats
  rcases repeats rfl with same | ⟨threshold, _, under, first⟩
  · exact absurd same (by decide)
  · have low := first 5 (by rw [last]; exact List.mem_singleton_self 5)
    omega

end RssiService.Monitoring
