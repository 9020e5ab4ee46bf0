import RssiService.Foundation.Latch
import RssiService.Foundation.Spell
import RssiService.Monitoring.HealthyChecks

/-!
# Outages

The alert of an unavailable site is a latch on the availability results of its
asset: three critical results in a row set it and a healthy one releases it.  An
open alert is brought up to date by every further failure, and an alert that
changes is notified again.
-/

namespace RssiService.Monitoring

open Foundation Foundation.Run Foundation.Latch Foundation.Spell

/-! ## Results -/

/-- The availability results of an asset, in the order they were recorded. -/
def httpResults (results : Table CheckResult) (asset : Nat) : List CheckResult :=
  results.rows.filter fun result => result.asset = asset && result.checkType = .httpUptime

def httpStatuses (results : Table CheckResult) (asset : Nat) : List Status :=
  (httpResults results asset).map CheckResult.status

/-- The run is an availability check of the asset. -/
def Run.probes (run : Run) (asset : Nat) : Bool :=
  run.asset.id = asset && run.check.type = .httpUptime

/-- What a sequence of runs reports of the availability of an asset. -/
def reportedStatuses (runs : List Run) (asset : Nat) : List Status :=
  (runs.filter fun run => run.probes asset).map fun run => run.outcome.status

/-- The alert to notify once a run is recorded. -/
def Store.notice (store : Store) (run : Run) : Option Alert :=
  (store.record run.now run.asset run.check.type run.outcome).2

def Store.empty : Store := ⟨Table.empty, Table.empty⟩

/-! ## The latch -/

/-- Three results in a row were critical, and none since is healthy. -/
def IsDown (statuses : List Status) : Prop :=
  Latched (fun status => status = .critical) (fun status => status = .ok)
    consecutiveFailuresForDown statuses

/-- The last three results are critical. -/
def IsFailing (statuses : List Status) : Prop :=
  Streak (fun status => status = .critical) consecutiveFailuresForDown statuses

/-- What the evaluation of a new result comes to, with the results up to it. -/
inductive DownCourse (now : Nat) (alerts : Table Alert) (asset : Asset) (latest : CheckResult)
    (statuses : List Status) : Evaluation → Prop where
  | recovered (healthy : latest.status = .ok) :
      DownCourse now alerts asset latest statuses (resolveAlert now alerts asset.id .down, none)
  | failing (unhealthy : latest.status ≠ .ok) (failing : IsFailing statuses)
      (opened : Table Alert × Alert × Bool)
      (opens : opened = openOrUpdateAlert now alerts asset .down .critical
        (.down consecutiveFailuresForDown latest.details.error)) :
      DownCourse now alerts asset latest statuses
        (opened.1, if opened.2.2 then some opened.2.1 else none)
  | waiting (unhealthy : latest.status ≠ .ok) (steady : ¬ IsFailing statuses) :
      DownCourse now alerts asset latest statuses (alerts, none)

section Evaluation

variable {now : Nat} {store : Store} {asset : Asset} {run : Run} {key : Nat}

theorem evaluateDownAlert_course {results : List CheckResult} {latest : CheckResult}
    (recorded : httpResults store.results asset.id = results ++ [latest]) :
    DownCourse now store.alerts asset latest (httpStatuses store.results asset.id)
      (evaluateDownAlert now store asset) := by
  have statuses : httpStatuses store.results asset.id =
      (results ++ [latest]).map CheckResult.status := by
    rw [httpStatuses, recorded]
  have recent : ((store.results.rows.filter fun result =>
      result.asset = asset.id && result.checkType = .httpUptime).reverse).take
        consecutiveFailuresForDown = latest :: results.reverse.take 2 := by
    rw [← httpResults, recorded, List.reverse_concat]
    rfl
  have failing : IsFailing (httpStatuses store.results asset.id) ↔
      ¬ (latest :: results.reverse.take 2).length < consecutiveFailuresForDown ∧
        (latest :: results.reverse.take 2).all (fun result => result.status = .critical) =
          true := by
    rw [statuses, IsFailing, streak_iff, ← List.map_reverse, ← List.map_take,
      List.reverse_concat]
    refine and_congr ?_ ?_
    · simp only [consecutiveFailuresForDown, List.length_map, List.length_append,
        List.length_cons, List.length_nil, List.length_take, List.length_reverse]
      omega
    · rw [List.forall_mem_map, List.all_eq_true]
      exact forall₂_congr fun result _ => decide_eq_true_iff.symm
  rw [evaluateDownAlert]
  simp only [recent]
  split
  · rename_i healthy
    exact .recovered healthy
  · rename_i unhealthy
    split
    · rename_i short
      exact .waiting unhealthy fun long => (failing.mp long).1 short
    · rename_i long
      split
      · rename_i critical
        exact .failing unhealthy (failing.mpr ⟨long, critical⟩) _ rfl
      · rename_i mixed
        exact .waiting unhealthy fun all => mixed (failing.mp all).2

theorem asset_of_probes (probes : run.probes key = true) : run.asset.id = key := by
  rw [Run.probes, Bool.and_eq_true] at probes
  exact of_decide_eq_true probes.1

/-- A run adds its result to those of its asset. -/
theorem httpResults_runCheck (store : Store) (run : Run) (key : Nat) :
    httpResults (store.runCheck run).results key =
      httpResults store.results key ++
        if run.probes key then [run.result store.results.next] else [] := by
  rw [httpResults, results_runCheck, List.filter_append, httpResults]
  congr 1
  rw [Run.probes]
  by_cases probes : (run.asset.id = key && run.check.type = .httpUptime) = true
  · rw [if_pos probes]
    exact List.filter_cons_of_pos probes
  · rw [if_neg probes]
    exact List.filter_cons_of_neg probes

theorem httpStatuses_runCheck (store : Store) (run : Run) (key : Nat) :
    httpStatuses (store.runCheck run).results key =
      httpStatuses store.results key ++
        if run.probes key then [run.outcome.status] else [] := by
  rw [httpStatuses, httpResults_runCheck, List.map_append, httpStatuses]
  split <;> rfl

/-- What an availability check of an asset does. -/
theorem runCheck_course (store : Store) (probes : run.probes key = true) :
    DownCourse run.now store.alerts run.asset (run.result store.results.next)
      (httpStatuses (store.runCheck run).results key)
      ((store.runCheck run).alerts, store.notice run) := by
  obtain ⟨rfl, http⟩ : run.asset.id = key ∧ run.check.type = .httpUptime := by
    simpa [Run.probes] using probes
  let recorded : Store := { store with results := (store.runCheck run).results }
  have rows : httpResults recorded.results run.asset.id =
      httpResults store.results run.asset.id ++ [run.result store.results.next] := by
    rw [httpResults_runCheck, if_pos probes]
  have evaluated : ((store.runCheck run).alerts, store.notice run) =
      evaluateAlerts run.now recorded run.asset run.check.type run.outcome.status
        run.outcome.details := rfl
  rw [evaluated, http]
  exact evaluateDownAlert_course rows

/-- No other run touches the alert. -/
theorem hasOpen_down_of_not_probes (elsewhere : run.probes key = false) :
    HasOpen (store.runCheck run).alerts key .down ↔ HasOpen store.alerts key .down := by
  refine (evaluatedTo_runCheck store run).hasOpen_of_ne ?_
  rintro ⟨rfl, down⟩
  have http : run.check.type = .httpUptime := CheckType.alertType_injective down
  simp [Run.probes, http] at elsewhere

theorem not_isDown_of_ok {statuses : List Status} : ¬ IsDown (statuses ++ [.ok]) :=
  not_latched_append_of_good (Nat.succ_pos 2) (fun _ => by decide) rfl

theorem isDown_append_of_ne_ok {statuses : List Status} {status : Status}
    (unhealthy : status ≠ .ok) :
    IsDown (statuses ++ [status]) ↔ IsDown statuses ∨ IsFailing (statuses ++ [status]) :=
  latched_append_of_not_good unhealthy

/-- The alert follows the latch over one run. -/
theorem hasOpen_down_runCheck
    (follows : HasOpen store.alerts key .down ↔ IsDown (httpStatuses store.results key)) :
    HasOpen (store.runCheck run).alerts key .down ↔
      IsDown (httpStatuses (store.runCheck run).results key) := by
  cases probes : run.probes key with
  | false =>
      rw [hasOpen_down_of_not_probes probes, httpStatuses_runCheck, probes, follows]
      simp
  | true =>
      have mine := asset_of_probes probes
      have course := runCheck_course store probes
      have statuses := httpStatuses_runCheck store run key
      rw [if_pos probes] at statuses
      rw [statuses] at course ⊢
      generalize (store.runCheck run).alerts = alerts at course ⊢
      generalize store.notice run = notice at course
      cases course with
      | recovered healthy =>
          have ok : run.outcome.status = .ok := healthy
          rw [ok, mine]
          exact iff_of_false not_hasOpen_resolveAlert not_isDown_of_ok
      | failing unhealthy failing opened opens =>
          rw [opens]
          refine iff_of_true (hasOpen_openOrUpdateAlert.mpr (Or.inr ⟨mine, rfl⟩)) ?_
          exact (isDown_append_of_ne_ok unhealthy).mpr (Or.inr failing)
      | waiting unhealthy steady =>
          have unhealthy : run.outcome.status ≠ .ok := unhealthy
          rw [follows, isDown_append_of_ne_ok unhealthy, or_iff_left steady]

end Evaluation

/-! ## One open alert -/

/-- At most one alert of an asset and of a type is open. -/
def OneOpen (alerts : Table Alert) : Prop :=
  ∀ key alertType, alerts.rows.countP (Alert.openFor key alertType) ≤ 1

section OneOpen

variable {now : Nat} {alerts after : Table Alert} {asset : Asset} {alertType : AlertType}

/-- An update that opens no alert keeps the count. -/
theorem OneOpen.update (one : OneOpen alerts) {selected : Alert → Bool} {change : Alert → Alert}
    (keeps : ∀ row, ident (change row) = ident row)
    (opens : ∀ row key alertType, (change row).openFor key alertType = true →
      row.openFor key alertType = true) :
    OneOpen (alerts.updateWhere selected change keeps) := by
  intro key alertType
  refine Nat.le_trans ?_ (one key alertType)
  rw [Table.updateWhere, List.countP_map]
  refine List.countP_mono_left fun row _ found => ?_
  rw [Function.comp_apply] at found
  split at found
  · exact opens row key alertType found
  · exact found

theorem OneOpen.openOrUpdate (one : OneOpen alerts) {severity : AlertSeverity}
    {details : AlertDetails} :
    OneOpen (openOrUpdateAlert now alerts asset alertType severity details).1 := by
  rw [openOrUpdateAlert]
  cases found : findOpen alerts asset.id alertType with
  | none =>
      intro key otherType
      dsimp only
      rw [Table.countP_create]
      split
      · rename_i opened
        obtain ⟨rfl, rfl, _⟩ := openFor_iff.mp opened
        have noneOpen : alerts.rows.countP (Alert.openFor asset.id alertType) = 0 :=
          List.countP_eq_zero.mpr fun row inside => by
            rw [findOpen_eq_none.mp found row inside]
            decide
        rw [noneOpen]
      · exact one key otherType
  | some standing =>
      dsimp only
      split
      · refine OneOpen.update one ?_ ?_
        · exact fun _ => rfl
        · intro row key otherType isOpen
          exact isOpen
      · exact one

theorem OneOpen.evaluated (one : OneOpen alerts)
    (evaluated : EvaluatedTo now alerts asset alertType after) : OneOpen after := by
  cases evaluated with
  | kept => exact one
  | resolved =>
      refine one.update _ ?_
      intro row key otherType isOpen
      simp [Alert.openFor] at isOpen
  | opened severity details => exact one.openOrUpdate

end OneOpen

/-! ## The order of the results -/

/-! ## When the alert is open -/

theorem httpStatuses_after (start : Store) (runs : List Run) (key : Nat) :
    httpStatuses (after Store.runCheck start runs).results key =
      httpStatuses start.results key ++ reportedStatuses runs key := by
  induction runs generalizing start with
  | nil => exact (List.append_nil _).symm
  | cons run rest ih =>
      rw [after_cons, ih, httpStatuses_runCheck, List.append_assoc, reportedStatuses,
        reportedStatuses, List.filter_cons]
      split <;> rfl

/-- After any sequence of checks, an asset has at most one open alert of each type, and its site
is held to be down exactly when three availability results in a row were critical with no
healthy one since. -/
theorem down_alert_iff (runs : List Run) (asset : Nat) :
    (HasOpen (after Store.runCheck Store.empty runs).alerts asset .down ↔
        ∃ earlier later, reportedStatuses runs asset =
          earlier ++ [.critical, .critical, .critical] ++ later ∧ .ok ∉ later) ∧
      ((after Store.runCheck Store.empty runs).alerts.rows.countP
        (Alert.openFor asset .down)) ≤ 1 := by
  have standing : Always Store.runCheck (fun store =>
      (HasOpen store.alerts asset .down ↔ IsDown (httpStatuses store.results asset)) ∧
        OneOpen store.alerts) Store.empty runs := by
    refine always_of_step ?_ ⟨?_, ?_⟩ runs
    · rintro store run ⟨follows, one⟩
      exact ⟨hasOpen_down_runCheck follows, one.evaluated (evaluatedTo_runCheck store run)⟩
    · refine iff_of_false ?_ (not_latched_nil (Nat.succ_pos 2))
      rintro ⟨alert, member, _⟩
      exact Table.not_mem_empty alert member
    · exact fun _ _ => Nat.zero_le 1
  obtain ⟨follows, one⟩ := standing.last
  refine ⟨follows.trans ?_, one asset .down⟩
  have statuses := httpStatuses_after Store.empty runs asset
  rw [statuses]
  constructor
  · rintro ⟨earlier, streak, later, whole, size, critical, unhealthy⟩
    have three : streak = [.critical, .critical, .critical] :=
      List.eq_replicate_iff.mpr ⟨size, critical⟩
    exact ⟨earlier, later, three ▸ whole, fun ok => unhealthy _ ok rfl⟩
  · rintro ⟨earlier, later, whole, healthy⟩
    refine ⟨earlier, _, later, whole, rfl, ?_, ?_⟩
    · intro status listed
      exact List.eq_of_mem_replicate (n := 3) listed
    · rintro status listed rfl
      exact healthy listed

/-! ## What is notified -/

section Notices

variable {now : Nat} {store : Store} {asset : Asset} {run : Run} {key : Nat} {alert : Alert}

/-- The alert that an evaluation returns is the one that it opens or updates. -/
theorem evaluateAlerts_notice {checkType : CheckType} {status : Status} {details : Details}
    (notified : (evaluateAlerts now store asset checkType status details).2 = some alert) :
    ∃ severity details, alert =
      (openOrUpdateAlert now store.alerts asset checkType.alertType severity details).2.1 := by
  have flagged {flag : Bool} {opened : Alert}
      (returned : (if flag then some opened else none) = some alert) : alert = opened := by
    cases flag with
    | false => cases returned
    | true => exact (Option.some.inj returned).symm
  cases checkType with
  | httpUptime =>
      simp only [evaluateAlerts, evaluateDownAlert] at notified
      split at notified
      · cases notified
      · split at notified
        · cases notified
        · split at notified
          · cases notified
          · split at notified
            · exact ⟨_, _, flagged notified⟩
            · cases notified
  | sslCertificate =>
      simp only [evaluateAlerts, evaluateSslAlert] at notified
      split at notified
      · cases notified
      · split at notified
        · cases notified
        · split at notified
          · cases notified
          · exact ⟨_, _, (Option.some.inj notified).symm⟩
  | securityHeaders =>
      simp only [evaluateAlerts, evaluateHeadersAlert] at notified
      split at notified
      · cases notified
      · exact ⟨_, _, flagged notified⟩
  | emailDns =>
      simp only [evaluateAlerts, evaluateEmailAlert] at notified
      split at notified
      · cases notified
      · exact ⟨_, _, flagged notified⟩

/-- A run notifies an open alert of its asset and of the type of its check. -/
theorem openFor_of_notice (notified : store.notice run = some alert) :
    alert.openFor run.asset.id run.check.type.alertType = true := by
  obtain ⟨severity, details, rfl⟩ := evaluateAlerts_notice notified
  exact openOrUpdateAlert_spec.openFor

/-- The run notifies the alert of an asset that is down. -/
def NotifiesDown (asset : Nat) (store : Store) (run : Run) : Prop :=
  ∃ alert, store.notice run = some alert ∧ alert.openFor asset .down = true

instance (asset : Nat) (store : Store) (run : Run) : Decidable (NotifiesDown asset store run) :=
  decidable_of_iff ((store.notice run).any (Alert.openFor asset .down) = true) <| by
    rw [Option.any_eq_true, NotifiesDown]

/-- A failure that makes three in a row repeats the error of the alert that is open. -/
def SameError (asset : Nat) (store : Store) (run : Run) : Prop :=
  run.probes asset = true → run.outcome.status ≠ .ok →
    IsFailing (httpStatuses store.results asset ++ [run.outcome.status]) →
      ∀ alert, findOpen store.alerts asset .down = some alert →
        alert.details = .down consecutiveFailuresForDown run.outcome.details.error

/-- The alerts of sites that are down are critical. -/
def DownCritical (alerts : Table Alert) : Prop :=
  ∀ alert ∈ alerts, alert.alertType = .down → alert.severity = .critical

theorem probes_of_notifiesDown (notifies : NotifiesDown key store run) :
    run.probes key = true := by
  obtain ⟨alert, notified, down⟩ := notifies
  obtain ⟨mine, type, _⟩ := openFor_iff.mp (openFor_of_notice notified)
  obtain ⟨same, isDown, _⟩ := openFor_iff.mp down
  have http : run.check.type = .httpUptime :=
    CheckType.alertType_injective (type.symm.trans isDown)
  rw [Run.probes, ← mine, same, http]
  simp

/-- Opening an alert that is open already changes nothing where it has that severity
and these details. -/
theorem changed_iff (now : Nat) {alerts : Table Alert} {alertType : AlertType}
    {severity : AlertSeverity} {details : AlertDetails} :
    (openOrUpdateAlert now alerts asset alertType severity details).2.2 = true ↔
      ∀ alert, findOpen alerts asset.id alertType = some alert →
        alert.severity ≠ severity ∨ alert.details ≠ details := by
  rw [openOrUpdateAlert]
  cases findOpen alerts asset.id alertType with
  | none => exact iff_of_true rfl (by rintro _ ⟨⟩)
  | some standing =>
      dsimp only
      split
      · rename_i changed
        refine iff_of_true rfl ?_
        rintro _ ⟨⟩
        exact changed
      · rename_i same
        exact iff_of_false Bool.false_ne_true fun changes => same (changes standing rfl)

theorem notifiesDown_iff :
    NotifiesDown key store run ↔
      run.probes key = true ∧ run.outcome.status ≠ .ok ∧
        IsFailing (httpStatuses store.results key ++ [run.outcome.status]) ∧
        ∀ alert, findOpen store.alerts key .down = some alert →
          alert.severity ≠ .critical ∨
            alert.details ≠ .down consecutiveFailuresForDown run.outcome.details.error := by
  by_cases probes : run.probes key = true
  · have mine := asset_of_probes probes
    have course := runCheck_course store probes
    have statuses := httpStatuses_runCheck store run key
    rw [if_pos probes] at statuses
    rw [statuses] at course
    rw [and_iff_right probes, NotifiesDown]
    generalize (store.runCheck run).alerts = alerts at course
    generalize store.notice run = notice at course ⊢
    cases course with
    | recovered healthy =>
        have healthy : run.outcome.status = .ok := healthy
        exact iff_of_false (by simp) fun fails => fails.1 healthy
    | failing unhealthy failing opened opens =>
        have unhealthy : run.outcome.status ≠ .ok := unhealthy
        have opens : opened = openOrUpdateAlert run.now store.alerts run.asset .down .critical
            (.down consecutiveFailuresForDown run.outcome.details.error) := opens
        rw [and_iff_right unhealthy, and_iff_right failing, ← mine, ← changed_iff run.now, ← opens]
        constructor
        · rintro ⟨alert, notified, _⟩
          by_contra unchanged
          rw [if_neg unchanged] at notified
          cases notified
        · intro changed
          rw [if_pos changed, opens]
          exact ⟨_, rfl, openOrUpdateAlert_spec.openFor⟩
    | waiting unhealthy steady => exact iff_of_false (by simp) fun fails => steady fails.2.1
  · exact iff_of_false (fun notifies => probes (probes_of_notifiesDown notifies))
      fun fails => probes fails.1

/-- An alert that a run opens is notified. -/
theorem notifiesDown_of_opens (wasClosed : ¬ HasOpen store.alerts key .down)
    (isOpen : HasOpen (store.runCheck run).alerts key .down) : NotifiesDown key store run := by
  have noneOpen : findOpen store.alerts key .down = none := by
    rwa [hasOpen_iff_findOpen, Option.not_isSome_iff_eq_none] at wasClosed
  cases probes : run.probes key with
  | false => exact absurd ((hasOpen_down_of_not_probes probes).mp isOpen) wasClosed
  | true =>
      have mine := asset_of_probes probes
      have course := runCheck_course store probes
      have statuses := httpStatuses_runCheck store run key
      rw [if_pos probes] at statuses
      rw [statuses] at course
      rw [notifiesDown_iff, and_iff_right probes, noneOpen]
      generalize (store.runCheck run).alerts = alerts at course isOpen
      generalize store.notice run = notice at course
      cases course with
      | recovered healthy =>
          rw [mine] at isOpen
          exact absurd isOpen not_hasOpen_resolveAlert
      | failing unhealthy failing opened opens =>
          exact ⟨unhealthy, failing, fun _ found => by cases found⟩
      | waiting unhealthy steady => exact absurd isOpen wasClosed

theorem DownCritical.openOrUpdate {alerts : Table Alert} {alertType : AlertType}
    {severity : AlertSeverity} {details : AlertDetails} (critical : DownCritical alerts)
    (fits : alertType = .down → severity = .critical) :
    DownCritical (openOrUpdateAlert now alerts asset alertType severity details).1 := by
  have opened : OpenedAs alerts asset alertType severity details
      (openOrUpdateAlert now alerts asset alertType severity details) := openOrUpdateAlert_spec
  intro alert inside down
  rcases (opened.rows alert).mp inside with ⟨old, _⟩ | rfl
  · exact critical alert old down
  · exact opened.severity_eq.trans (fits ((openFor_iff.mp opened.openFor).2.1.symm.trans down))

theorem DownCritical.resolve {alerts : Table Alert} {alertType : AlertType}
    (critical : DownCritical alerts) :
    DownCritical (resolveAlert now alerts key alertType) := by
  intro alert inside
  obtain ⟨source, old, rfl⟩ := Table.mem_updateWhere.mp inside
  split
  · exact critical source old
  · exact critical source old

theorem DownCritical.runCheck (critical : DownCritical store.alerts) :
    DownCritical (store.runCheck run).alerts := by
  cases probes : run.probes run.asset.id with
  | false =>
      have other : run.check.type.alertType ≠ .down := by
        intro down
        have http : run.check.type = .httpUptime := CheckType.alertType_injective down
        simp [Run.probes, http] at probes
      have evaluated := evaluatedTo_runCheck store run
      generalize (store.runCheck run).alerts = alerts at evaluated ⊢
      cases evaluated with
      | kept => exact critical
      | resolved => exact critical.resolve
      | opened severity details => exact critical.openOrUpdate fun down => absurd down other
  | true =>
      have course := runCheck_course store probes
      generalize (store.runCheck run).alerts = alerts at course ⊢
      generalize store.notice run = notice at course
      cases course with
      | recovered healthy => exact critical.resolve
      | failing unhealthy failing opened opens =>
          rw [opens]
          exact critical.openOrUpdate fun _ => rfl
      | waiting unhealthy steady => exact critical

/-- A run notifies no alert that is open already exactly when it repeats its error. -/
theorem sameError_iff (critical : DownCritical store.alerts) :
    (NotifiesDown key store run → ¬ HasOpen store.alerts key .down) ↔ SameError key store run := by
  rw [notifiesDown_iff, hasOpen_iff_findOpen]
  constructor
  · intro quiet probes unhealthy failing alert found
    by_contra changed
    refine quiet ⟨probes, unhealthy, failing, ?_⟩ (found ▸ rfl)
    intro other same
    cases found.symm.trans same
    exact Or.inr changed
  · rintro same ⟨probes, unhealthy, failing, changed⟩ isOpen
    obtain ⟨alert, found⟩ := Option.isSome_iff_exists.mp isOpen
    obtain ⟨member, down⟩ := mem_of_findOpen found
    rcases changed alert found with severity | details
    · exact severity (critical alert member (openFor_iff.mp down).2.1)
    · exact details (same probes unhealthy failing alert found)

end Notices

/-- Over any sequence of checks, an outage of an asset is notified once exactly when every failure
that makes three in a row during it repeats the error of the alert. -/
theorem one_notice_iff (runs : List Run) (asset : Nat) :
    OncePerSpell Store.runCheck (fun store => HasOpen store.alerts asset .down)
        (NotifiesDown asset) Store.empty runs ↔
      EachStep Store.runCheck (SameError asset) Store.empty runs := by
  have closed : ¬ HasOpen Store.empty.alerts asset .down := by
    rintro ⟨alert, member, _⟩
    exact Table.not_mem_empty alert member
  have critical : DownCritical Store.empty.alerts := fun alert member =>
    absurd member (Table.not_mem_empty alert)
  refine Iff.trans (oncePerSpell_iff ?_ closed) ?_
  · exact fun _ _ => notifiesDown_of_opens
  refine eachStep_congr (I := fun store => DownCritical store.alerts) ?_ ?_ critical runs
  · exact fun _ _ kept => kept.runCheck
  · exact fun _ _ kept => sameError_iff kept

/-! A site that first times out and then refuses connections. -/

def failedCheck (now : Nat) (error : String) : Run :=
  { now, asset := shopSite, check := .httpUptime (.failed error) }

/-- The outage is notified twice. -/
theorem changing_error_notifies_twice :
    ¬ OncePerSpell Store.runCheck (fun store => HasOpen store.alerts 1 .down) (NotifiesDown 1)
        Store.empty
        [failedCheck 0 "timed out", failedCheck 5 "timed out", failedCheck 10 "timed out",
          failedCheck 15 "connection refused"] := by
  intro once
  refine once [failedCheck 0 "timed out", failedCheck 5 "timed out"]
    (failedCheck 10 "timed out") [] (failedCheck 15 "connection refused") [] rfl ?_ ?_ ?_
  · decide +kernel
  · decide +kernel
  · change HasOpen _ 1 .down
    decide +kernel

end RssiService.Monitoring
