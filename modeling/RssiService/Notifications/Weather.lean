import RssiService.Monitoring.HealthyChecks
import RssiService.ThreatIntelligence.BreachAlerts

/-!
# The daily bulletin

The weather of a tenant is the worst of its last check results, of its open
alerts and of its open findings.  Breach alerts count in it, and are not shown
among the alerts: the findings are shown instead.
-/

namespace RssiService.Notifications

open Foundation Foundation.Run Python
open Monitoring (Asset AssetType Alert AlertType CheckType CheckResult Status Probe HasOpen
  AlertsExplained AlertsOwned getLatestCheck)
open ThreatIntelligence (BreachFinding FindingStatus SourceEndpoint Severity IngestionReport
  Delivery Runtime AlertsInStep InStepThroughout MovesNoAlert KeptByIngestion)

/-! ## The weather -/

def statusRank : Status → Nat
  | .ok => 0
  | .warning => 1
  | .critical => 2

def worse (first second : Status) : Status :=
  if statusRank first < statusRank second then second else first

/-- The results of the checks, and the findings with the alerts of the assets. -/
structure Situation where
  results : Table CheckResult
  store : ThreatIntelligence.Store

def Situation.monitoring (situation : Situation) : Monitoring.Store :=
  ⟨situation.results, situation.store.alerts⟩

def checkTypesByAssetType : AssetType → List CheckType
  | .website => [.httpUptime, .sslCertificate, .securityHeaders]
  | .emailDomain => [.emailDns]

def listAssets (assets : Table Asset) (tenant : Nat) : List Asset :=
  assets.rows.reverse.filter fun asset => asset.tenant = tenant

/-- The open alerts of a tenant, the most recent first. -/
def listOpenAlerts (alerts : Table Alert) (tenant : Nat) : List Alert :=
  (alerts.rows.filter fun alert => alert.tenant = tenant && alert.isOpen).insertionSort
    fun first second => second.openedAt ≤ first.openedAt

/-- The open findings of a tenant, pre-incident signals included. -/
def listOpenFindings (findings : Table BreachFinding) (tenant : Nat) : List BreachFinding :=
  (findings.rows.filter fun finding => finding.tenant = tenant && finding.status = .open)
    |>.insertionSort fun first second => second.detectedAt ≤ first.detectedAt

structure AssetRow where
  value : String
  checks : List (CheckType × Status)
  mood : Status

def assetRow (results : Table CheckResult) (asset : Asset) : AssetRow :=
  let checks := (checkTypesByAssetType asset.type).filterMap fun checkType =>
    (getLatestCheck results asset checkType).map fun result => (checkType, result.status)
  { value := asset.value, checks, mood := (checks.map Prod.snd).foldl worse .ok }

/-- The worst of the checks, then of the alerts, then of the findings. -/
def weatherMood (checks : List Status) (alerts : List Alert) (findings : List BreachFinding) :
    Status :=
  let ofChecks := checks.foldl worse .ok
  let ofAlerts :=
    if alerts.isEmpty then ofChecks
    else if alerts.any fun alert => alert.severity = .critical then .critical
    else worse ofChecks .warning
  if findings.any fun finding => finding.severity = .critical then .critical
  else if findings.isEmpty then ofAlerts
  else worse ofAlerts .warning

/-- Some rows of the bulletin under one key, with the assets they are about. -/
structure Group (Key : Type) where
  key : Key
  count : Nat
  assets : List String

/-- Count one more row under a key. -/
def addToGroups {Key : Type} [DecidableEq Key] (groups : List (Group Key)) (row : Key × String) :
    List (Group Key) :=
  if groups.any fun group => group.key = row.1 then
    groups.map fun group =>
      if group.key = row.1 then
        { group with
          count := group.count + 1
          assets :=
            if group.assets.contains row.2 then group.assets else group.assets ++ [row.2] }
      else group
  else groups ++ [⟨row.1, 1, [row.2]⟩]

def severityRank : Severity → Nat
  | .critical => 0
  | .high => 1
  | .attention => 2

def weatherMaxBreachTypes : Nat := 3

structure WeatherContext where
  mood : Status
  assets : List AssetRow
  openAlerts : List (Group AlertType)
  openBreachFindings : List (Group (SourceEndpoint × String × Severity))
  breachTotal : Nat
  breachTypesHidden : Nat

def WeatherContext.toutVaBien (context : WeatherContext) : Bool := context.mood = .ok

def assetValue (assets : Table Asset) (key : Nat) : String :=
  ((assets.find? key).map Asset.value).getD ""

def buildWeatherContext (assets : Table Asset) (situation : Situation) (tenant : Nat) :
    WeatherContext :=
  let rows := (listAssets assets tenant).map (assetRow situation.results)
  let alerts := listOpenAlerts situation.store.alerts tenant
  let findings := (listOpenFindings situation.store.findings tenant).insertionSort
    fun first second =>
      severityRank first.severity < severityRank second.severity ∨
        severityRank first.severity = severityRank second.severity ∧
          assetValue assets first.asset ≤ assetValue assets second.asset
  let shown := alerts.filter fun alert => alert.alertType ≠ .breachCompromise
  let groups := (findings.map fun finding =>
    ((finding.sourceEndpoint, finding.findingType, finding.severity),
      assetValue assets finding.asset)).foldl addToGroups []
  { mood := weatherMood (rows.flatMap fun row => row.checks.map Prod.snd) alerts findings
    assets := rows
    openAlerts :=
      ((shown.map fun alert => (alert.alertType, assetValue assets alert.asset)).foldl addToGroups
        []).map fun group => { group with count := group.assets.length }
    openBreachFindings := groups.take weatherMaxBreachTypes
    breachTotal := findings.length
    breachTypesHidden := groups.length - weatherMaxBreachTypes }

/-! ## Runs -/

/-- An ingestion, a change of status of a finding, or a check of an asset. -/
inductive WatchEvent where
  | ingest (asset now : Nat) (report : IngestionReport) (deliveries : List Delivery)
  | setStatus (tenant finding : Nat) (status : FindingStatus) (user : Option Nat) (now : Nat)
  | check (asset now : Nat) (probe : Probe)

/-- What the event is for the store of the findings. -/
def WatchEvent.breachEvent (assets : Table Asset) : WatchEvent → Option ThreatIntelligence.Event
  | .ingest key now report deliveries =>
      (assets.find? key).map fun asset => .ingest asset.tenant asset now report deliveries
  | .setStatus tenant finding status user now => some (.setStatus tenant finding status user now)
  | .check _ _ _ => none

def watchStep (runtime : Runtime) (assets : Table Asset) (situation : Situation)
    (event : WatchEvent) : Situation :=
  match event with
  | .check key now probe =>
      match assets.find? key with
      | none => situation
      | some asset =>
          let checked := situation.monitoring.runCheck ⟨now, asset, probe.check⟩
          { results := checked.results
            store := { situation.store with alerts := checked.alerts } }
  | .ingest _ _ _ _ | .setStatus _ _ _ _ _ =>
      match event.breachEvent assets with
      | none => situation
      | some breach =>
          { situation with store := ThreatIntelligence.step runtime situation.store breach }

/-- The last results of the assets of a tenant are all healthy. -/
def ChecksHealthy (assets : Table Asset) (situation : Situation) (tenant : Nat) : Prop :=
  ∀ asset ∈ assets, asset.tenant = tenant → ∀ checkType result,
    getLatestCheck situation.results asset checkType = some result → result.status = .ok

def FindingsClosed (situation : Situation) (tenant : Nat) : Prop :=
  ∀ finding ∈ situation.store.findings, finding.tenant = tenant → finding.status ≠ .open

/-- An open alert of the tenant. -/
def OpenAlert (situation : Situation) (tenant : Nat) (alert : Alert) : Prop :=
  alert ∈ situation.store.alerts ∧ alert.tenant = tenant ∧ alert.isOpen = true

def OpenFinding (situation : Situation) (tenant : Nat) (finding : BreachFinding) : Prop :=
  finding ∈ situation.store.findings ∧ finding.tenant = tenant ∧ finding.status = .open

/-- A tenant whose checks are healthy and whose findings are closed has a clear
bulletin. -/
def ClearWhenQuiet (assets : Table Asset) (situation : Situation) : Prop :=
  ∀ tenant, ChecksHealthy assets situation tenant → FindingsClosed situation tenant →
    (buildWeatherContext assets situation tenant).toutVaBien = true

/-- The breach alerts are in step with the findings all along the event, and the
bulletins that follow are clear where nothing is left to treat. -/
def ReportsTruly (runtime : Runtime) (assets : Table Asset) (situation : Situation)
    (event : WatchEvent) : Prop :=
  (match event.breachEvent assets with
    | some breach => InStepThroughout runtime situation.store breach
    | none => AlertsInStep (watchStep runtime assets situation event).store) ∧
    ClearWhenQuiet assets (watchStep runtime assets situation event)

/-- An ingestion or a change of status moves no breach alert out of step. -/
def KeepsInStep (runtime : Runtime) (assets : Table Asset) (situation : Situation)
    (event : WatchEvent) : Prop :=
  ∀ breach, event.breachEvent assets = some breach →
    MovesNoAlert runtime situation.store breach

/-- Findings and alerts are of assets and of their tenants, and beside an open
alert of a check there is a last result that is not healthy. -/
structure WellKept (assets : Table Asset) (situation : Situation) : Prop where
  findings : ∀ finding ∈ situation.store.findings,
    ∃ asset ∈ assets, asset.id = finding.asset ∧ asset.tenant = finding.tenant
  alerts : AlertsOwned assets situation.store.alerts
  explained : AlertsExplained assets situation.monitoring

section Moods

variable {checks : List Status} {alerts : List Alert} {findings : List BreachFinding}

theorem worse_eq_ok {first second : Status} :
    worse first second = .ok ↔ first = .ok ∧ second = .ok := by
  cases first <;> cases second <;> simp [worse, statusRank]

theorem foldl_worse_eq_ok {start : Status} :
    checks.foldl worse start = .ok ↔ start = .ok ∧ ∀ status ∈ checks, status = .ok := by
  induction checks generalizing start with
  | nil => simp
  | cons status rest ih => rw [List.foldl_cons, ih, worse_eq_ok, List.forall_mem_cons, and_assoc]

/-- The weather is clear where the checks are healthy and nothing is open. -/
theorem weatherMood_eq_ok :
    weatherMood checks alerts findings = .ok ↔
      (∀ status ∈ checks, status = .ok) ∧ alerts = [] ∧ findings = [] := by
  have clear : checks.foldl worse .ok = .ok ↔ ∀ status ∈ checks, status = .ok :=
    foldl_worse_eq_ok.trans (and_iff_right rfl)
  unfold weatherMood
  rw [← clear]
  cases findings with
  | cons finding rest =>
      refine iff_of_false ?_ (by simp)
      simp only [List.isEmpty_cons, Bool.false_eq_true, if_false]
      split
      · simp
      · simp [worse_eq_ok]
  | nil =>
      simp only [List.any_nil, List.isEmpty_nil, Bool.false_eq_true, if_true, if_false, and_true]
      cases alerts with
      | nil => simp
      | cons alert rest =>
          refine iff_of_false ?_ (by simp)
          simp only [List.isEmpty_cons, Bool.false_eq_true, if_false]
          split
          · simp
          · simp [worse_eq_ok]

end Moods

section Bulletins

variable {runtime : Runtime} {assets : Table Asset} {situation : Situation}

theorem mem_listOpenAlerts {tenant : Nat} {alert : Alert} :
    alert ∈ listOpenAlerts situation.store.alerts tenant ↔ OpenAlert situation tenant alert := by
  rw [listOpenAlerts, List.mem_insertionSort, List.mem_filter, Bool.and_eq_true,
    decide_eq_true_eq]
  exact Iff.rfl

theorem mem_listOpenFindings {tenant : Nat} {finding : BreachFinding} :
    finding ∈ listOpenFindings situation.store.findings tenant ↔
      OpenFinding situation tenant finding := by
  rw [listOpenFindings, List.mem_insertionSort, List.mem_filter, Bool.and_eq_true,
    decide_eq_true_eq, decide_eq_true_eq]
  exact Iff.rfl

/-- The statuses of the last checks. -/
theorem mem_lastStatuses {tenant : Nat} {status : Status} :
    status ∈ ((listAssets assets tenant).map (assetRow situation.results)).flatMap
        (fun row => row.checks.map Prod.snd) ↔
      ∃ asset ∈ assets, asset.tenant = tenant ∧ ∃ checkType ∈ checkTypesByAssetType asset.type,
        ∃ result, getLatestCheck situation.results asset checkType = some result ∧
          result.status = status := by
  simp only [List.mem_flatMap, List.mem_map, listAssets, List.mem_filter, List.mem_reverse,
    decide_eq_true_eq, assetRow]
  constructor
  · rintro ⟨_, ⟨asset, ⟨inside, mine⟩, rfl⟩, _, shown, rfl⟩
    obtain ⟨checkType, applies, found⟩ := List.mem_filterMap.mp shown
    obtain ⟨result, latest, rfl⟩ := Option.map_eq_some_iff.mp found
    exact ⟨asset, inside, mine, checkType, applies, result, latest, rfl⟩
  · rintro ⟨asset, inside, mine, checkType, applies, result, latest, rfl⟩
    refine ⟨_, ⟨asset, ⟨inside, mine⟩, rfl⟩, (checkType, result.status), ?_, rfl⟩
    exact List.mem_filterMap.mpr ⟨checkType, applies, by rw [latest]; rfl⟩

theorem toutVaBien_iff {tenant : Nat} :
    (buildWeatherContext assets situation tenant).toutVaBien = true ↔
      (∀ asset ∈ assets, asset.tenant = tenant → ∀ checkType ∈ checkTypesByAssetType asset.type,
        ∀ result, getLatestCheck situation.results asset checkType = some result →
          result.status = .ok) ∧
      (∀ alert ∈ situation.store.alerts, alert.tenant = tenant → alert.isOpen = false) ∧
      FindingsClosed situation tenant := by
  have clear : (buildWeatherContext assets situation tenant).toutVaBien = true ↔ _ :=
    decide_eq_true_iff.trans weatherMood_eq_ok
  rw [clear]
  refine and_congr ?_ (and_congr ?_ ?_)
  · constructor
    · intro all asset inside mine checkType applies result latest
      exact all result.status (mem_lastStatuses.mpr
        ⟨asset, inside, mine, checkType, applies, result, latest, rfl⟩)
    · intro all status listed
      obtain ⟨asset, inside, mine, checkType, applies, result, latest, rfl⟩ :=
        mem_lastStatuses.mp listed
      exact all asset inside mine checkType applies result latest
  · simp only [List.eq_nil_iff_forall_not_mem, mem_listOpenAlerts, OpenAlert, not_and,
      Bool.not_eq_true]
  · simp only [List.eq_nil_iff_forall_not_mem, List.mem_insertionSort, mem_listOpenFindings,
      OpenFinding, not_and]
    exact Iff.rfl

/-- An open alert is of a breach, or of a check. -/
theorem alertType_cases (alertType : AlertType) :
    alertType = .breachCompromise ∨ ∃ checkType : CheckType, checkType.alertType = alertType := by
  cases alertType with
  | down => exact Or.inr ⟨.httpUptime, rfl⟩
  | sslExpiring => exact Or.inr ⟨.sslCertificate, rfl⟩
  | securityHeaders => exact Or.inr ⟨.securityHeaders, rfl⟩
  | emailMisconfigured => exact Or.inr ⟨.emailDns, rfl⟩
  | breachCompromise => exact Or.inl rfl

/-- In step, the bulletin of a tenant with nothing to treat is clear. -/
theorem clearWhenQuiet_of_inStep (kept : WellKept assets situation)
    (inStep : AlertsInStep situation.store) : ClearWhenQuiet assets situation := by
  intro tenant healthy closed
  refine toutVaBien_iff.mpr ⟨?_, ?_, closed⟩
  · intro asset inside mine checkType _ result latest
    exact healthy asset inside mine checkType result latest
  · intro alert inside mine
    by_contra isOpen
    replace isOpen := Bool.eq_true_of_not_eq_false isOpen
    obtain ⟨asset, member, sameAsset, sameTenant⟩ := kept.alerts alert inside
    rcases alertType_cases alert.alertType with breach | ⟨checkType, ofCheck⟩
    · have standing : HasOpen situation.store.alerts alert.asset .breachCompromise :=
        ⟨alert, inside, Monitoring.openFor_iff.mpr ⟨rfl, breach, isOpen⟩⟩
      obtain ⟨finding, found, onAsset, stillOpen⟩ := (inStep alert.asset).mp standing
      obtain ⟨owner, ownerIn, ownerAsset, ownerTenant⟩ := kept.findings finding found
      have same : owner = asset :=
        Table.ident_injective ownerIn member (ownerAsset.trans (onAsset.trans sameAsset.symm))
      refine closed finding found ?_ stillOpen
      rw [← ownerTenant, same, sameTenant, mine]
    · have standing : HasOpen situation.store.alerts alert.asset checkType.alertType :=
        ⟨alert, inside, Monitoring.openFor_iff.mpr ⟨rfl, ofCheck.symm, isOpen⟩⟩
      obtain ⟨owner, ownerIn, ownerAsset, result, latest, unhealthy⟩ :=
        kept.explained alert.asset checkType standing
      have same : owner = asset :=
        Table.ident_injective ownerIn member (ownerAsset.trans sameAsset.symm)
      refine unhealthy (healthy owner ownerIn ?_ checkType result latest)
      rw [same, sameTenant, mine]

theorem WellKept.modify {store : ThreatIntelligence.Store}
    (kept : WellKept assets { situation with store }) {key : Nat}
    {change : BreachFinding → BreachFinding} {keeps : ∀ row, ident (change row) = ident row}
    (same : ∀ row, (change row).asset = row.asset ∧ (change row).tenant = row.tenant) :
    WellKept assets { situation with store := store.modifyFinding key change keeps } := by
  refine ⟨?_, kept.alerts, kept.explained⟩
  intro finding inside
  obtain ⟨row, old, rfl⟩ := ThreatIntelligence.mem_modifyFinding.mp inside
  obtain ⟨owner, ownerIn, sameAsset, sameTenant⟩ := kept.findings row old
  refine ⟨owner, ownerIn, ?_⟩
  split
  · rw [(same row).1, (same row).2]
    exact ⟨sameAsset, sameTenant⟩
  · exact ⟨sameAsset, sameTenant⟩

theorem WellKept.stale {store : ThreatIntelligence.Store} {tenant : Nat}
    (kept : WellKept assets { situation with store }) :
    WellKept assets { situation with
      store := ThreatIntelligence.markSynthesisStale store tenant } :=
  ⟨kept.findings, kept.alerts, kept.explained⟩

theorem wellKept_ingestion {tenant now : Nat} {asset : Asset} (member : asset ∈ assets)
    (mine : asset.tenant = tenant) :
    KeptByIngestion tenant now asset fun store =>
      WellKept assets { situation with store } where
  modify := fun _ _ _ _ same kept => kept.modify same
  insert := by
    intro store normalized secretEncrypted kept
    refine ⟨?_, kept.alerts, kept.explained⟩
    intro finding inside
    rcases ThreatIntelligence.mem_insertFinding.mp inside with old | rfl
    · exact kept.findings finding old
    · exact ⟨asset, member, rfl, mine⟩
  alert := by
    intro store severity details kept
    refine ⟨kept.findings, kept.alerts.openOrUpdate member, ?_⟩
    intro key checkType isOpen
    refine kept.explained key checkType ?_
    refine (Monitoring.hasOpen_openOrUpdateAlert.trans (or_iff_left ?_)).mp isOpen
    rintro ⟨_, breach⟩
    cases checkType <;> cases breach
  stale := fun _ kept => kept.stale

/-- Every event keeps the owners and the explanations of the alerts. -/
theorem wellKept_watchStep {event : WatchEvent} (kept : WellKept assets situation) :
    WellKept assets (watchStep runtime assets situation event) := by
  cases event with
  | ingest key now report deliveries =>
      simp only [watchStep, WatchEvent.breachEvent]
      cases found : assets.find? key with
      | none => exact kept
      | some asset => exact (wellKept_ingestion (Table.mem_of_find? found) rfl).batch kept
  | setStatus tenant finding status user now =>
      simp only [watchStep, WatchEvent.breachEvent, ThreatIntelligence.step]
      split
      · exact kept
      · refine WellKept.stale (WellKept.modify kept ?_)
        exact fun _ => ⟨rfl, rfl⟩
  | check key now probe =>
      simp only [watchStep]
      cases found : assets.find? key with
      | none => exact kept
      | some asset =>
          have member := Table.mem_of_find? found
          have evaluated := Monitoring.evaluatedTo_runCheck situation.monitoring
            ⟨now, asset, probe.check⟩
          exact ⟨kept.findings, kept.alerts.evaluated member evaluated,
            Monitoring.alertsExplained_runCheck member kept.explained⟩

/-- A check leaves the breach alerts as they are. -/
theorem inStep_check {key now : Nat} {probe : Probe} (inStep : AlertsInStep situation.store) :
    AlertsInStep (watchStep runtime assets situation (.check key now probe)).store := by
  simp only [watchStep]
  cases found : assets.find? key with
  | none => exact inStep
  | some asset =>
      intro other
      have evaluated := Monitoring.evaluatedTo_runCheck situation.monitoring
        ⟨now, asset, probe.check⟩
      refine (evaluated.hasOpen_of_ne ?_).trans (inStep other)
      rintro ⟨_, breach⟩
      revert breach
      cases probe.check.type <;> simp [CheckType.alertType]

theorem inStep_watchStep {event : WatchEvent} {breach : ThreatIntelligence.Event}
    (is : event.breachEvent assets = some breach)
    (throughout : InStepThroughout runtime situation.store breach) :
    AlertsInStep (watchStep runtime assets situation event).store := by
  have after := ThreatIntelligence.inStep_step throughout
  cases event with
  | check key now probe => cases is
  | ingest key now report deliveries =>
      simp only [watchStep, is]
      exact after
  | setStatus tenant finding status user now =>
      simp only [watchStep, is]
      exact after

/-- An event that concerns no finding keeps the alerts in step. -/
theorem inStep_of_none {event : WatchEvent} (inStep : AlertsInStep situation.store)
    (none : event.breachEvent assets = none) :
    AlertsInStep (watchStep runtime assets situation event).store := by
  cases event with
  | check key now probe => exact inStep_check inStep
  | ingest key now report deliveries =>
      simp only [watchStep, none]
      exact inStep
  | setStatus tenant finding status user now => cases none

/-- What one event keeps. -/
theorem reportsTruly_iff {event : WatchEvent} (kept : WellKept assets situation)
    (inStep : AlertsInStep situation.store) :
    ReportsTruly runtime assets situation event ↔ KeepsInStep runtime assets situation event := by
  have clear (after : AlertsInStep (watchStep runtime assets situation event).store) :
      ClearWhenQuiet assets (watchStep runtime assets situation event) :=
    clearWhenQuiet_of_inStep (wellKept_watchStep kept) after
  rw [ReportsTruly, KeepsInStep]
  cases is : event.breachEvent assets with
  | none =>
      have after : AlertsInStep (watchStep runtime assets situation event).store :=
        inStep_of_none inStep is
      exact iff_of_true ⟨after, clear after⟩ (by simp)
  | some breach =>
      simp only [Option.some.injEq, forall_eq']
      rw [← ThreatIntelligence.inStepThroughout_iff inStep]
      exact ⟨And.left, fun throughout => ⟨throughout, clear (inStep_watchStep is throughout)⟩⟩

theorem inStep_of_reportsTruly {event : WatchEvent}
    (truly : ReportsTruly runtime assets situation event) :
    AlertsInStep (watchStep runtime assets situation event).store := by
  have throughout := truly.1
  cases is : event.breachEvent assets with
  | none =>
      rw [is] at throughout
      exact throughout
  | some breach =>
      rw [is] at throughout
      exact inStep_watchStep is throughout

/-- Over any run of ingestions, changes of status and checks, the breach alert of
an asset is open exactly while one of its findings is, and a tenant with nothing
to treat has a clear bulletin, exactly when no event moves an alert out of step. -/
theorem reports_truly_iff (runtime : Runtime) (assets : Table Asset) (start : Situation)
    (kept : WellKept assets start) (inStep : AlertsInStep start.store) (events : List WatchEvent) :
    EachStep (watchStep runtime assets) (ReportsTruly runtime assets) start events ↔
      EachStep (watchStep runtime assets) (KeepsInStep runtime assets) start events :=
  eachStep_iff_eachStep (P := fun situation : Situation => AlertsInStep situation.store)
    (fun _ _ kept => wellKept_watchStep kept) (fun _ _ kept inStep => reportsTruly_iff kept inStep)
    (fun _ _ _ _ truly => inStep_of_reportsTruly truly) kept inStep events

end Bulletins

/-! One leak of one site, ingested and then treated. -/

def websiteAsset (key : Nat) : Asset := ⟨key, 1, .website, "https://acme.fr", true⟩

theorem ident_websiteAsset (key : Nat) : ident (websiteAsset key) = key := rfl

def watchedSite : Table Asset := Table.empty.create websiteAsset ident_websiteAsset

def quietSituation : Situation := ⟨Table.empty, ⟨Table.empty, Table.empty, Table.empty⟩⟩

def treatedLeak : List WatchEvent :=
  [.ingest 0 10 ⟨[], [], []⟩ [⟨ThreatIntelligence.leakedCredential, "token", none⟩],
    .setStatus 1 0 .treated (some 7) 20]

theorem reports_truly_iff_treated :
    EachStep (watchStep ThreatIntelligence.plainRuntime watchedSite)
        (ReportsTruly ThreatIntelligence.plainRuntime watchedSite) quietSituation treatedLeak ↔
      EachStep (watchStep ThreatIntelligence.plainRuntime watchedSite)
        (KeepsInStep ThreatIntelligence.plainRuntime watchedSite) quietSituation treatedLeak := by
  refine reports_truly_iff ThreatIntelligence.plainRuntime watchedSite quietSituation
    ⟨?_, ?_, ?_⟩ ?_ treatedLeak
  · exact fun finding inside => absurd inside (Table.not_mem_empty finding)
  · exact fun alert inside => absurd inside (Table.not_mem_empty alert)
  · rintro _ _ ⟨alert, inside, _⟩
    exact absurd inside (Table.not_mem_empty alert)
  · intro asset
    refine iff_of_false ?_ ?_
    · rintro ⟨alert, inside, _⟩
      exact Table.not_mem_empty alert inside
    · rintro ⟨finding, inside, _⟩
      exact Table.not_mem_empty finding inside

/-- The alert of a treated leak stays open, and the bulletin is never clear. -/
theorem treated_leak_storms :
    ¬ EachStep (watchStep ThreatIntelligence.plainRuntime watchedSite)
      (ReportsTruly ThreatIntelligence.plainRuntime watchedSite) quietSituation treatedLeak := by
  rintro ⟨_, ⟨_, clear⟩, _⟩
  have quiet := clear 1 ?_ ?_
  · revert quiet
    decide +kernel
  · intro asset inside mine checkType result latest
    cases latest
  · have closed : ∀ finding ∈ (after (watchStep ThreatIntelligence.plainRuntime watchedSite)
        quietSituation treatedLeak).store.findings.rows,
        finding.tenant = 1 → finding.status ≠ .open := by
      decide +kernel
    exact closed

end RssiService.Notifications
