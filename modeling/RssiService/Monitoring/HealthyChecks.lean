import RssiService.Monitoring.AlertEngine

/-!
# Healthy checks

A check opens and resolves the alerts of one type of its asset.  A check that is
healthy leaves none of them open, so an open alert always stands beside a last
result that is not.
-/

namespace RssiService.Monitoring

open Foundation Foundation.Run Python

/-- The type of the alerts that a check type opens and resolves. -/
def CheckType.alertType : CheckType → AlertType
  | .httpUptime => .down
  | .sslCertificate => .sslExpiring
  | .securityHeaders => .securityHeaders
  | .emailDns => .emailMisconfigured

/-- The checks of the worker, and the failures that the simulation command writes. -/
inductive Probe where
  | httpUptime (fetch : Fetch HttpAnswer)
  | sslCertificate (fetch : Fetch (Option Certificate))
  | securityHeaders (fetch : Fetch (List String))
  | emailDns (txtStrings : TxtStrings)
  | failure (checkType : CheckType)

def Probe.check : Probe → Check
  | .httpUptime fetch => .httpUptime fetch
  | .sslCertificate fetch => .sslCertificate fetch
  | .securityHeaders fetch => .securityHeaders fetch
  | .emailDns txtStrings => .emailDns txtStrings
  | .failure checkType =>
      .simulated checkType .critical { error := some "Simulation E2E : hôte injoignable." }

/-- The last result of an asset for a check type. -/
def getLatestCheck (results : Table CheckResult) (asset : Asset) (checkType : CheckType) :
    Option CheckResult :=
  results.rows.reverse.find? fun result =>
    result.tenant = asset.tenant && result.asset = asset.id && result.checkType = checkType

/-- Beside every open alert of a check there is a last result of its asset that is
not healthy. -/
def AlertsExplained (assets : Table Asset) (store : Store) : Prop :=
  ∀ key checkType, HasOpen store.alerts key checkType.alertType →
    ∃ asset ∈ assets, asset.id = key ∧
      ∃ result, getLatestCheck store.results asset checkType = some result ∧ result.status ≠ .ok

section Evaluations

variable {now : Nat} {store : Store} {asset : Asset} {checkType : CheckType} {status : Status}
  {details : Details} {other : Nat} {alertType : AlertType}

/-- The alerts after an evaluation: as they were, resolved, or with one opened, all
of the asset and of the type of the check. -/
inductive EvaluatedTo (now : Nat) (alerts : Table Alert) (asset : Asset) (alertType : AlertType) :
    Table Alert → Prop where
  | kept : EvaluatedTo now alerts asset alertType alerts
  | resolved : EvaluatedTo now alerts asset alertType (resolveAlert now alerts asset.id alertType)
  | opened (severity : AlertSeverity) (details : AlertDetails) :
      EvaluatedTo now alerts asset alertType
        (openOrUpdateAlert now alerts asset alertType severity details).1

theorem evaluateAlerts_course (now : Nat) (store : Store) (asset : Asset) (checkType : CheckType)
    (status : Status) (details : Details) :
    EvaluatedTo now store.alerts asset checkType.alertType
      (evaluateAlerts now store asset checkType status details).1 := by
  cases checkType with
  | httpUptime =>
      simp only [evaluateAlerts, evaluateDownAlert]
      split
      · exact .kept
      · split
        · exact .resolved
        · split
          · exact .kept
          · split
            · exact .opened _ _
            · exact .kept
  | sslCertificate =>
      simp only [evaluateAlerts, evaluateSslAlert]
      split
      · exact .kept
      · split
        · exact .resolved
        · split
          · exact .kept
          · exact .opened _ _
  | securityHeaders =>
      simp only [evaluateAlerts, evaluateHeadersAlert]
      split
      · exact .resolved
      · exact .opened _ _
  | emailDns =>
      simp only [evaluateAlerts, evaluateEmailAlert]
      split
      · exact .resolved
      · exact .opened _ _

/-- An evaluation touches the alerts of its own asset and type only. -/
theorem EvaluatedTo.hasOpen_of_ne {before after : Table Alert}
    (evaluated : EvaluatedTo now before asset alertType after) {otherType : AlertType}
    (apart : ¬ (asset.id = other ∧ alertType = otherType)) :
    HasOpen after other otherType ↔ HasOpen before other otherType := by
  cases evaluated with
  | kept => exact Iff.rfl
  | resolved => exact hasOpen_resolveAlert.trans (and_iff_left apart)
  | opened severity details => exact hasOpen_openOrUpdateAlert.trans (or_iff_left apart)

end Evaluations

theorem evaluatedTo_runCheck (store : Store) (run : Run) :
    EvaluatedTo run.now store.alerts run.asset run.check.type.alertType
      (store.runCheck run).alerts :=
  evaluateAlerts_course run.now { store with results := (store.runCheck run).results } run.asset
    run.check.type run.outcome.status run.outcome.details

theorem CheckType.alertType_injective : Function.Injective CheckType.alertType := by
  intro first second same
  cases first <;> cases second <;> first | rfl | cases same

section Probes

variable {store : Store} {now : Nat} {asset : Asset} {probe : Probe}

/-- The row that a check records. -/
def Run.result (run : Run) (key : Nat) : CheckResult :=
  { id := key, tenant := run.asset.tenant, asset := run.asset.id, checkType := run.check.type
    status := run.outcome.status, details := run.outcome.details, latency := run.outcome.latency
    checkedAt := run.now }

theorem results_runCheck (store : Store) (run : Run) :
    (store.runCheck run).results.rows = store.results.rows ++ [run.result store.results.next] :=
  rfl

/-- The last result of the checked asset is the new one. -/
theorem getLatestCheck_runCheck (store : Store) (run : Run) :
    getLatestCheck (store.runCheck run).results run.asset run.check.type =
      some (run.result store.results.next) := by
  rw [getLatestCheck, results_runCheck, List.reverse_append, List.reverse_singleton,
    List.singleton_append]
  exact List.find?_cons_of_pos (by simp [Run.result])

/-- The last results of the other assets and of the other types stay. -/
theorem getLatestCheck_runCheck_of_ne {store : Store} {run : Run} {other : Asset}
    {checkType : CheckType} (apart : ¬ (run.asset.id = other.id ∧ run.check.type = checkType)) :
    getLatestCheck (store.runCheck run).results other checkType =
      getLatestCheck store.results other checkType := by
  rw [getLatestCheck, results_runCheck, List.reverse_append, List.reverse_singleton,
    List.singleton_append]
  refine List.find?_cons_of_neg ?_
  intro found
  rw [Bool.and_eq_true, Bool.and_eq_true] at found
  exact apart ⟨of_decide_eq_true found.1.2, of_decide_eq_true found.2⟩

theorem not_hasOpen_resolveAlert {alerts : Table Alert} {key : Nat} {alertType : AlertType} :
    ¬ HasOpen (resolveAlert now alerts key alertType) key alertType :=
  fun isOpen => (hasOpen_resolveAlert.mp isOpen).2 ⟨rfl, rfl⟩

/-- The certificate is healthy only if it has more days left than the threshold. -/
theorem daysLeft_of_healthy {fetch : Fetch (Option Certificate)}
    (healthy : (checkSslCertificate fetch).status = .ok) :
    ∃ daysLeft, (checkSslCertificate fetch).details.daysLeft = some daysLeft ∧ 30 < daysLeft := by
  cases fetch with
  | refused message => cases healthy
  | failed message => cases healthy
  | answered answer =>
      cases answer with
      | none => cases healthy
      | some certificate =>
          refine ⟨certificate.daysLeft, rfl, ?_⟩
          simp only [checkSslCertificate] at healthy
          split at healthy
          · cases healthy
          · by_contra few
            have soon : certificate.daysLeft ≤ warningThresholdDays := Int.not_lt.mp few
            rw [if_pos soon] at healthy
            cases healthy

theorem missing_of_healthy {fetch : Fetch (List String)}
    (healthy : (checkSecurityHeaders fetch).status = .ok) :
    (checkSecurityHeaders fetch).details.missing = some [] := by
  cases fetch with
  | refused message => cases healthy
  | failed message => cases healthy
  | answered headers =>
      simp only [checkSecurityHeaders] at healthy ⊢
      split at healthy
      · rename_i none
        rw [none]
      · cases healthy

theorem issues_of_healthy {txtStrings : TxtStrings} {domain : String}
    (healthy : (checkEmailDns txtStrings domain).status = .ok) :
    (checkEmailDns txtStrings domain).details.issues = some [] := by
  unfold checkEmailDns at healthy ⊢
  split at healthy
  · cases healthy
  · dsimp only at healthy ⊢
    split at healthy
    · cases healthy
    · dsimp only at healthy ⊢
      split at healthy
      · cases healthy
      · split at healthy
        · rename_i none
          rw [none]
        · cases healthy

/-- A healthy check resolves the alerts of its type. -/
theorem alerts_of_healthy (healthy : (Run.mk now asset probe.check).outcome.status = .ok) :
    (store.runCheck ⟨now, asset, probe.check⟩).alerts =
      resolveAlert now store.alerts asset.id probe.check.type.alertType := by
  cases probe with
  | httpUptime fetch =>
      have last : ((store.results.rows ++ [(Run.mk now asset (.httpUptime fetch)).result
            store.results.next]).filter fun result =>
          result.asset = asset.id && result.checkType = .httpUptime).reverse =
          (Run.mk now asset (.httpUptime fetch)).result store.results.next ::
            (store.results.rows.filter fun result =>
              result.asset = asset.id && result.checkType = .httpUptime).reverse := by
        simp [List.filter_append, Run.result, Check.type]
      have resolved : (evaluateDownAlert now { store with
            results := (store.runCheck ⟨now, asset, .httpUptime fetch⟩).results } asset).1 =
          resolveAlert now store.alerts asset.id .down := by
        simp only [evaluateDownAlert, results_runCheck, last, consecutiveFailuresForDown,
          List.take_succ_cons]
        exact congrArg Prod.fst (if_pos healthy)
      exact resolved
  | sslCertificate fetch =>
      obtain ⟨daysLeft, left, enough⟩ := daysLeft_of_healthy healthy
      have resolved : (evaluateSslAlert now store.alerts asset
          (checkSslCertificate fetch).details).1 =
          resolveAlert now store.alerts asset.id .sslExpiring := by
        simp only [evaluateSslAlert, left]
        rw [if_pos enough]
      exact resolved
  | securityHeaders fetch =>
      have resolved : (evaluateHeadersAlert now store.alerts asset
          (checkSecurityHeaders fetch).details).1 =
          resolveAlert now store.alerts asset.id .securityHeaders := by
        simp [evaluateHeadersAlert, missing_of_healthy healthy]
      exact resolved
  | emailDns txtStrings =>
      have resolved : (evaluateEmailAlert now store.alerts asset
          (checkEmailDns txtStrings asset.value).status
          (checkEmailDns txtStrings asset.value).details).1 =
          resolveAlert now store.alerts asset.id .emailMisconfigured := by
        simp [evaluateEmailAlert, issues_of_healthy healthy]
      exact resolved
  | failure checkType => cases healthy

theorem not_hasOpen_of_healthy
    (healthy : (Run.mk now asset probe.check).outcome.status = .ok) :
    ¬ HasOpen (store.runCheck ⟨now, asset, probe.check⟩).alerts asset.id
      probe.check.type.alertType := by
  rw [alerts_of_healthy healthy]
  exact not_hasOpen_resolveAlert

/-- Checks keep every open alert explained. -/
theorem alertsExplained_runCheck {assets : Table Asset} (member : asset ∈ assets)
    (explained : AlertsExplained assets store) :
    AlertsExplained assets (store.runCheck ⟨now, asset, probe.check⟩) := by
  intro key checkType isOpen
  by_cases mine : asset.id = key ∧ probe.check.type = checkType
  · obtain ⟨rfl, rfl⟩ := mine
    refine ⟨asset, member, rfl, _, getLatestCheck_runCheck store ⟨now, asset, probe.check⟩, ?_⟩
    exact fun healthy => not_hasOpen_of_healthy healthy isOpen
  · have wasOpen : HasOpen store.alerts key checkType.alertType := by
      refine ((evaluatedTo_runCheck store _).hasOpen_of_ne ?_).mp isOpen
      rintro ⟨same, sameType⟩
      exact mine ⟨same, CheckType.alertType_injective sameType⟩
    obtain ⟨other, inside, rfl, result, latest, unhealthy⟩ := explained key checkType wasOpen
    exact ⟨other, inside, rfl, result, (getLatestCheck_runCheck_of_ne mine).trans latest, unhealthy⟩

end Probes

/-! ## Whose alerts -/

/-- Every alert is of an asset, and of its tenant. -/
def AlertsOwned (assets : Table Asset) (alerts : Table Alert) : Prop :=
  ∀ alert ∈ alerts, ∃ asset ∈ assets, asset.id = alert.asset ∧ asset.tenant = alert.tenant

section Owners

variable {assets : Table Asset} {alerts : Table Alert} {asset : Asset} {alertType : AlertType}
  {now : Nat}

theorem AlertsOwned.update (owned : AlertsOwned assets alerts) {selected : Alert → Bool}
    {change : Alert → Alert} (keeps : ∀ row, ident (change row) = ident row)
    (same : ∀ row, (change row).asset = row.asset ∧ (change row).tenant = row.tenant) :
    AlertsOwned assets (alerts.updateWhere selected change keeps) := by
  intro alert inside
  obtain ⟨row, old, rfl⟩ := Table.mem_updateWhere.mp inside
  obtain ⟨asset, member, sameId, sameTenant⟩ := owned row old
  refine ⟨asset, member, ?_⟩
  split
  · rw [(same row).1, (same row).2]
    exact ⟨sameId, sameTenant⟩
  · exact ⟨sameId, sameTenant⟩

theorem AlertsOwned.openOrUpdate (owned : AlertsOwned assets alerts) (member : asset ∈ assets)
    {severity : AlertSeverity} {details : AlertDetails} :
    AlertsOwned assets (openOrUpdateAlert now alerts asset alertType severity details).1 := by
  rw [openOrUpdateAlert]
  cases findOpen alerts asset.id alertType with
  | none =>
      intro alert inside
      rcases Table.mem_create.mp inside with old | rfl
      · exact owned alert old
      · exact ⟨asset, member, rfl, rfl⟩
  | some standing =>
      dsimp only
      split
      · refine AlertsOwned.update owned ?_ ?_
        · exact fun _ => rfl
        · exact fun _ => ⟨rfl, rfl⟩
      · exact owned

theorem AlertsOwned.evaluated {after : Table Alert} (owned : AlertsOwned assets alerts)
    (member : asset ∈ assets) (evaluated : EvaluatedTo now alerts asset alertType after) :
    AlertsOwned assets after := by
  cases evaluated with
  | kept => exact owned
  | resolved =>
      refine AlertsOwned.update owned _ ?_
      exact fun _ => ⟨rfl, rfl⟩
  | opened severity details => exact owned.openOrUpdate member

end Owners

end RssiService.Monitoring
