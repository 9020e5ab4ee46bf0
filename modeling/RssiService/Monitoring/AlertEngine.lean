import Mathlib.Data.List.Sort
import RssiService.Foundation.Run
import RssiService.Monitoring.Checks

/-!
# The alert engine

Each recorded result is evaluated against the open alerts of its asset.  The
headers and the email evaluators decide from a key of the details, so a result
that only holds an error reads as a healthy one.
-/

namespace RssiService.Monitoring

open Foundation Foundation.Run Python

structure CheckResult where
  id : Nat
  tenant : Nat
  asset : Nat
  checkType : CheckType
  status : Status
  details : Details
  latency : Option Nat
  checkedAt : Nat
  deriving DecidableEq, Repr

instance : Identified CheckResult := ⟨CheckResult.id⟩

structure Store where
  results : Table CheckResult
  alerts : Table Alert

def consecutiveFailuresForDown : Nat := 3

def sslNotifyThresholds : List Int := [30, 14, 7]

/-! ## Evaluation -/

/-- The alerts after an evaluation, and the alert to notify. -/
abbrev Evaluation := Table Alert × Option Alert

def evaluateDownAlert (now : Nat) (store : Store) (asset : Asset) : Evaluation :=
  let recent := ((store.results.rows.filter fun result =>
    result.asset = asset.id && result.checkType = .httpUptime).reverse).take
      consecutiveFailuresForDown
  match recent with
  | [] => (store.alerts, none)
  | latest :: _ =>
      if latest.status = .ok then (resolveAlert now store.alerts asset.id .down, none)
      else if recent.length < consecutiveFailuresForDown then (store.alerts, none)
      else if recent.all fun result => result.status = .critical then
        let (alerts, alert, created) := openOrUpdateAlert now store.alerts asset .down .critical
          (.down consecutiveFailuresForDown latest.details.error)
        (alerts, if created then some alert else none)
      else (store.alerts, none)

/-- The thresholds an open certificate alert has already notified. -/
def alreadyNotified (alert : Option Alert) : List Int :=
  match alert.map Alert.details with
  | some (.sslExpiring _ _ notified) => notified
  | _ => []

def evaluateSslAlert (now : Nat) (alerts : Table Alert) (asset : Asset) (details : Details) :
    Evaluation :=
  match details.daysLeft with
  | none => (alerts, none)
  | some daysLeft =>
      if 30 < daysLeft then (resolveAlert now alerts asset.id .sslExpiring, none)
      else
        let notified := alreadyNotified (findOpen alerts asset.id .sslExpiring)
        let newlyCrossed := sslNotifyThresholds.filter fun threshold =>
          daysLeft ≤ threshold && !notified.contains threshold
        if newlyCrossed = [] then (alerts, none)
        else
          let (alerts, alert, _) := openOrUpdateAlert now alerts asset .sslExpiring
            (if daysLeft ≤ 7 then .critical else .warning)
            (.sslExpiring daysLeft details.expiresAt
              ((notified ++ newlyCrossed).dedup.insertionSort (· ≤ ·)))
          (alerts, some alert)

def evaluateHeadersAlert (now : Nat) (alerts : Table Alert) (asset : Asset) (details : Details) :
    Evaluation :=
  let missing := details.missing.getD []
  if missing = [] then (resolveAlert now alerts asset.id .securityHeaders, none)
  else
    let (alerts, alert, created) := openOrUpdateAlert now alerts asset .securityHeaders
      .warning (.securityHeaders (missing.map MissingHeader.header))
    (alerts, if created then some alert else none)

def evaluateEmailAlert (now : Nat) (alerts : Table Alert) (asset : Asset) (status : Status)
    (details : Details) : Evaluation :=
  let issues := details.issues.getD []
  if issues = [] then (resolveAlert now alerts asset.id .emailMisconfigured, none)
  else
    let (alerts, alert, created) := openOrUpdateAlert now alerts asset .emailMisconfigured
      (if status = .critical then .critical else .warning) (.emailMisconfigured issues)
    (alerts, if created then some alert else none)

def evaluateAlerts (now : Nat) (store : Store) (asset : Asset) (checkType : CheckType)
    (status : Status) (details : Details) : Evaluation :=
  match checkType with
  | .httpUptime => evaluateDownAlert now store asset
  | .sslCertificate => evaluateSslAlert now store.alerts asset details
  | .securityHeaders => evaluateHeadersAlert now store.alerts asset details
  | .emailDns => evaluateEmailAlert now store.alerts asset status details

/-- Record a result and evaluate it. -/
def Store.record (now : Nat) (store : Store) (asset : Asset) (checkType : CheckType)
    (outcome : CheckOutcome) : Store × Option Alert :=
  let recorded : Store :=
    { store with
      results := store.results.create (fun key =>
        { id := key, tenant := asset.tenant, asset := asset.id, checkType
          status := outcome.status, details := outcome.details, latency := outcome.latency
          checkedAt := now }) (fun _ => rfl) }
  let (alerts, alert) := evaluateAlerts now recorded asset checkType outcome.status outcome.details
  ({ recorded with alerts }, alert)

/-! ## Runs -/

/-- One check of an asset with what the network answers, or a simulated result. -/
inductive Check where
  | httpUptime (fetch : Fetch HttpAnswer)
  | sslCertificate (fetch : Fetch (Option Certificate))
  | securityHeaders (fetch : Fetch (List String))
  | emailDns (txtStrings : TxtStrings)
  | simulated (checkType : CheckType) (status : Status) (details : Details)

def Check.type : Check → CheckType
  | .httpUptime _ => .httpUptime
  | .sslCertificate _ => .sslCertificate
  | .securityHeaders _ => .securityHeaders
  | .emailDns _ => .emailDns
  | .simulated checkType _ _ => checkType

def Check.outcome (asset : Asset) : Check → CheckOutcome
  | .httpUptime fetch => checkHttpUptime fetch
  | .sslCertificate fetch => checkSslCertificate fetch
  | .securityHeaders fetch => checkSecurityHeaders fetch
  | .emailDns txtStrings => checkEmailDns txtStrings asset.value
  | .simulated _ status details => { status, details }

structure Run where
  now : Nat
  asset : Asset
  check : Check

def Run.outcome (run : Run) : CheckOutcome := run.check.outcome run.asset

/-- Run one check, as the worker does or as the simulation does. -/
def Store.runCheck (store : Store) (run : Run) : Store :=
  (store.record run.now run.asset run.check.type run.outcome).1

/-! ## Who resolves an alert -/

/-- The alert type that a check type can resolve, among headers and email. -/
def watchedBy : CheckType → Option AlertType
  | .securityHeaders => some .securityHeaders
  | .emailDns => some .emailMisconfigured
  | .httpUptime | .sslCertificate => none

/-- The problems that a result observed: `none` when it observed nothing. -/
def observedProblems (checkType : CheckType) (details : Details) : Option Nat :=
  match checkType with
  | .securityHeaders => details.missing.map List.length
  | .emailDns => details.issues.map List.length
  | .httpUptime | .sslCertificate => none

/-- Every headers or email alert that a check resolves is resolved by a result
of its own check that observed no problem. -/
def ResolvedByObservation (store : Store) (run : Run) : Prop :=
  ∀ asset alertType, alertType = .securityHeaders ∨ alertType = .emailMisconfigured →
    HasOpen store.alerts asset alertType → ¬ HasOpen (store.runCheck run).alerts asset alertType →
      run.asset.id = asset ∧ watchedBy run.check.type = some alertType ∧
        run.outcome.details.error = none ∧
          observedProblems run.check.type run.outcome.details = some 0

/-- What a check has to meet: while the alert it watches is open, it must observe
its target.  A simulated result must write the key that its evaluator reads, and
no error beside a healthy one. -/
def ObservesWhileOpen (store : Store) (run : Run) : Prop :=
  match run.check with
  | .securityHeaders fetch =>
      HasOpen store.alerts run.asset.id .securityHeaders → fetch.error = none
  | .emailDns txtStrings =>
      HasOpen store.alerts run.asset.id .emailMisconfigured →
        emailAnswered txtStrings run.asset.value
  | .simulated checkType _ details =>
      ∀ alertType ∈ watchedBy checkType, HasOpen store.alerts run.asset.id alertType →
        ∃ count ∈ observedProblems checkType details, count = 0 → details.error = none
  | .httpUptime _ | .sslCertificate _ => True

section Evaluators

variable {now : Nat} {store : Store} {alerts : Table Alert} {asset : Asset}
  {alertType : AlertType} {other : Nat}

theorem hasOpen_evaluateDownAlert (apart : alertType ≠ .down) :
    HasOpen (evaluateDownAlert now store asset).1 other alertType ↔
      HasOpen store.alerts other alertType := by
  simp only [evaluateDownAlert]
  split
  · exact Iff.rfl
  · split
    · simp [hasOpen_resolveAlert, apart.symm]
    · split
      · exact Iff.rfl
      · split
        · simp [hasOpen_openOrUpdateAlert, apart.symm]
        · exact Iff.rfl

theorem hasOpen_evaluateSslAlert {details : Details} (apart : alertType ≠ .sslExpiring) :
    HasOpen (evaluateSslAlert now alerts asset details).1 other alertType ↔
      HasOpen alerts other alertType := by
  simp only [evaluateSslAlert]
  split
  · exact Iff.rfl
  · split
    · simp [hasOpen_resolveAlert, apart.symm]
    · split
      · exact Iff.rfl
      · simp [hasOpen_openOrUpdateAlert, apart.symm]

theorem hasOpen_evaluateHeadersAlert {details : Details}
    (wasOpen : HasOpen alerts other alertType) :
    ¬ HasOpen (evaluateHeadersAlert now alerts asset details).1 other alertType ↔
      asset.id = other ∧ alertType = .securityHeaders ∧ details.missing.getD [] = [] := by
  simp only [evaluateHeadersAlert]
  split
  · rename_i healthy
    simp [hasOpen_resolveAlert, wasOpen, healthy, eq_comm]
  · rename_i problems
    simp [hasOpen_openOrUpdateAlert, wasOpen, problems]

theorem hasOpen_evaluateEmailAlert {status : Status} {details : Details}
    (wasOpen : HasOpen alerts other alertType) :
    ¬ HasOpen (evaluateEmailAlert now alerts asset status details).1 other alertType ↔
      asset.id = other ∧ alertType = .emailMisconfigured ∧ details.issues.getD [] = [] := by
  simp only [evaluateEmailAlert]
  split
  · rename_i healthy
    simp [hasOpen_resolveAlert, wasOpen, healthy, eq_comm]
  · rename_i problems
    simp [hasOpen_openOrUpdateAlert, wasOpen, problems]

/-- A check closes an open headers or email alert exactly when it is its own
check and reads no problem in the details. -/
theorem closes_iff {run : Run}
    (watched : alertType = .securityHeaders ∨ alertType = .emailMisconfigured)
    (wasOpen : HasOpen store.alerts other alertType) :
    ¬ HasOpen (store.runCheck run).alerts other alertType ↔
      run.asset.id = other ∧ watchedBy run.check.type = some alertType ∧
        (observedProblems run.check.type run.outcome.details).getD 0 = 0 := by
  have not_down : alertType ≠ .down := by rcases watched with rfl | rfl <;> decide
  have not_ssl : alertType ≠ .sslExpiring := by rcases watched with rfl | rfl <;> decide
  unfold Store.runCheck Store.record
  cases type : run.check.type with
  | httpUptime => simp [evaluateAlerts, hasOpen_evaluateDownAlert not_down, wasOpen, watchedBy]
  | sslCertificate => simp [evaluateAlerts, hasOpen_evaluateSslAlert not_ssl, wasOpen, watchedBy]
  | securityHeaders =>
      have no_problem : run.outcome.details.missing.getD [] = [] ↔
          (run.outcome.details.missing.map List.length).getD 0 = 0 := by
        cases run.outcome.details.missing <;> simp
      simp only [evaluateAlerts]
      rw [hasOpen_evaluateHeadersAlert wasOpen, no_problem]
      simp only [watchedBy, observedProblems, Option.some.injEq]
      rw [eq_comm (a := alertType)]
  | emailDns =>
      have no_problem : run.outcome.details.issues.getD [] = [] ↔
          (run.outcome.details.issues.map List.length).getD 0 = 0 := by
        cases run.outcome.details.issues <;> simp
      simp only [evaluateAlerts]
      rw [hasOpen_evaluateEmailAlert wasOpen, no_problem]
      simp only [watchedBy, observedProblems, Option.some.injEq]
      rw [eq_comm (a := alertType)]

end Evaluators

theorem watched_types {checkType : CheckType} {alertType : AlertType}
    (watches : watchedBy checkType = some alertType) :
    alertType = .securityHeaders ∨ alertType = .emailMisconfigured := by
  cases checkType <;> simp_all [watchedBy]

/-- Only the check that watches an open alert may close it: what it closes is
resolved by observation when it observed no problem. -/
theorem resolvedByObservation_iff_observed (store : Store) (run : Run) :
    ResolvedByObservation store run ↔
      ∀ alertType ∈ watchedBy run.check.type, HasOpen store.alerts run.asset.id alertType →
        (observedProblems run.check.type run.outcome.details).getD 0 = 0 →
          run.outcome.details.error = none ∧
            observedProblems run.check.type run.outcome.details = some 0 := by
  constructor
  · intro resolved alertType watches wasOpen healthy
    have watched := watched_types watches
    exact (resolved run.asset.id alertType watched wasOpen
      ((closes_iff watched wasOpen).mpr ⟨rfl, watches, healthy⟩)).2.2
  · intro observes asset alertType watched wasOpen closed
    obtain ⟨rfl, watches, healthy⟩ := (closes_iff watched wasOpen).mp closed
    exact ⟨rfl, watches, observes alertType watches wasOpen healthy⟩

/-- A check resolves by observation exactly when it observes its target while
its alert is open. -/
theorem resolvedByObservation_iff (store : Store) (run : Run) :
    ResolvedByObservation store run ↔ ObservesWhileOpen store run := by
  rw [resolvedByObservation_iff_observed]
  obtain ⟨now, asset, check⟩ := run
  cases check with
  | httpUptime fetch => simp [ObservesWhileOpen, Check.type, watchedBy]
  | sslCertificate fetch => simp [ObservesWhileOpen, Check.type, watchedBy]
  | securityHeaders fetch =>
      cases fetch <;>
        simp +contextual [ObservesWhileOpen, Check.type, Run.outcome, Check.outcome, watchedBy,
          observedProblems, checkSecurityHeaders, errorOutcome, Fetch.error]
  | emailDns txtStrings =>
      obtain ⟨no_error, observed⟩ := error_checkEmailDns txtStrings asset.value
      simp only [ObservesWhileOpen, Check.type, Run.outcome, Check.outcome, watchedBy,
        observedProblems, Option.mem_def, Option.some.injEq, forall_eq', no_error]
      refine forall_congr' fun wasOpen => ?_
      cases issues : (checkEmailDns txtStrings asset.value).details.issues with
      | none =>
          have unanswered : ¬ emailAnswered txtStrings asset.value = true := by
            simpa [issues] using observed
          simp [unanswered]
      | some reported =>
          have answered : emailAnswered txtStrings asset.value = true := by
            simpa [issues] using observed
          simp [answered]
  | simulated checkType status details =>
      simp only [ObservesWhileOpen, Check.type, Run.outcome, Check.outcome]
      refine forall₂_congr fun alertType watches => forall_congr' fun wasOpen => ?_
      cases observedProblems checkType details with
      | none => simp
      | some count =>
          simp only [Option.getD_some, Option.some.injEq, exists_eq_left', Option.mem_def]
          constructor
          · intro observed healthy
            exact (observed healthy).1
          · intro observed healthy
            exact ⟨observed healthy, healthy⟩

/-- Along any sequence of checks the headers and email alerts are resolved by
healthy observations only, exactly when no check fails to observe while the
alert it watches is open. -/
theorem resolved_by_observation_iff (store : Store) (runs : List Run) :
    EachStep Store.runCheck ResolvedByObservation store runs ↔
      EachStep Store.runCheck ObservesWhileOpen store runs :=
  eachStep_congr_of_forall resolvedByObservation_iff store runs

/-! ## An error that resolves -/

def shopSite : Asset :=
  { id := 1, tenant := 1, type := .website, value := "https://shop.exemple.fr", isActive := true }

/-- The headers alert opens on an answer without headers; then the site times out. -/
def shopRuns : List Run :=
  [{ now := 0, asset := shopSite, check := .securityHeaders (.answered []) },
    { now := 1, asset := shopSite, check := .securityHeaders (.failed "timed out") }]

theorem timeout_resolves :
    ¬ EachStep Store.runCheck ResolvedByObservation ⟨Table.empty, Table.empty⟩ shopRuns := by
  rintro ⟨_, second, _⟩
  have observed := second 1 .securityHeaders (Or.inl rfl) (by decide +kernel) (by decide +kernel)
  exact absurd observed.2.2.1 (by decide)

end RssiService.Monitoring
