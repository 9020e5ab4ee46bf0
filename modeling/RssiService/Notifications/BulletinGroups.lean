import RssiService.Foundation.Leading
import RssiService.Notifications.Weather

/-!
# What the bulletin shows of the alerts and of the findings

Alerts are shown by type and findings by kind and severity, each group under one severity,
and only the first groups of findings are shown.
-/

namespace RssiService.Notifications

open Foundation Foundation.Grouping Foundation.Leading Python
open Monitoring (Asset Alert AlertType AlertSeverity Status)
open ThreatIntelligence (BreachFinding SourceEndpoint Severity)

/-! ## Groups of alerts -/

/-- The alerts of a type, under the severity that is shown. -/
structure AlertGroup where
  alertType : AlertType
  severity : AlertSeverity
  assets : List String
  deriving DecidableEq, Repr

namespace AlertGroup

def severityLabel (group : AlertGroup) : String :=
  match group.severity with
  | .warning => "Avertissement"
  | .critical => "Critique"

def count (group : AlertGroup) : Nat := group.assets.length

def assetsLabel (group : AlertGroup) : String := String.intercalate ", " (group.assets.take 3)

def assetsExtra (group : AlertGroup) : Nat := group.assets.length - 3

def start (row : Alert × String) : AlertGroup := ⟨row.1.alertType, row.1.severity, [row.2]⟩

def more (group : AlertGroup) (row : Alert × String) : AlertGroup :=
  { group with
    assets := if group.assets.contains row.2 then group.assets else group.assets ++ [row.2] }

end AlertGroup

/-- The loop over the open alerts, without those of leaks. -/
def groupesAlertes (assets : Table Asset) (situation : Situation) (tenant : Nat) :
    List AlertGroup :=
  let shown := (listOpenAlerts situation.store.alerts tenant).filter fun alert =>
    alert.alertType ≠ .breachCompromise
  (shown.map fun alert => (alert, assetValue assets alert.asset)).foldl
    (addTo AlertGroup.alertType (fun row => row.1.alertType) AlertGroup.start AlertGroup.more) []

/-! ## What the severities stand for -/

def alertStatus : AlertSeverity → Status
  | .warning => .warning
  | .critical => .critical

/-- A leak is never good weather. -/
def findingStatus : Severity → Status
  | .critical => .critical
  | .high | .attention => .warning

def findingKey (finding : BreachFinding) : SourceEndpoint × String × Severity :=
  (finding.sourceEndpoint, finding.findingType, finding.severity)

/-- The weather has to do with a last check, an open alert or an open finding. -/
def InWeather (assets : Table Asset) (situation : Situation) (tenant : Nat) (status : Status) :
    Prop :=
  (∃ asset ∈ assets, asset.tenant = tenant ∧ ∃ checkType ∈ checkTypesByAssetType asset.type,
    ∃ result, Monitoring.getLatestCheck situation.results asset checkType = some result ∧
      result.status = status) ∨
  (∃ alert, OpenAlert situation tenant alert ∧ alertStatus alert.severity = status) ∨
  ∃ finding, OpenFinding situation tenant finding ∧ findingStatus finding.severity = status

/-- The groups that are shown and those that are hidden have each open finding once, and none
that is hidden is more severe than one that is shown. -/
structure Accounts (situation : Situation) (tenant : Nat) (context : WeatherContext)
    (hidden : List (Group (SourceEndpoint × String × Severity))) : Prop where
  count : hidden.length = context.breachTypesHidden
  distinct : ((context.openBreachFindings ++ hidden).map Group.key).Nodup
  grouped : ∀ finding, OpenFinding situation tenant finding →
    ∃ group ∈ context.openBreachFindings ++ hidden, group.key = findingKey finding
  counts : ∀ group ∈ context.openBreachFindings ++ hidden, group.count =
    situation.store.findings.rows.countP fun finding =>
      (finding.tenant = tenant && finding.status = .open) && findingKey finding = group.key
  total : ((context.openBreachFindings ++ hidden).map Group.count).sum = context.breachTotal
  severe : ∀ shown ∈ context.openBreachFindings, ∀ group ∈ hidden,
    severityRank shown.key.2.2 ≤ severityRank group.key.2.2

structure ShowsSeverities (assets : Table Asset) (situation : Situation) (tenant : Nat) : Prop where
  mood_le : ∀ status, InWeather assets situation tenant status →
    statusRank status ≤ statusRank (buildWeatherContext assets situation tenant).mood
  mood_mem : (buildWeatherContext assets situation tenant).mood = .ok ∨
    InWeather assets situation tenant (buildWeatherContext assets situation tenant).mood
  alerts_le : ∀ group ∈ groupesAlertes assets situation tenant, ∀ alert,
    OpenAlert situation tenant alert → alert.alertType = group.alertType →
      statusRank (alertStatus alert.severity) ≤ statusRank (alertStatus group.severity)
  alerts_mem : ∀ group ∈ groupesAlertes assets situation tenant, ∃ alert,
    OpenAlert situation tenant alert ∧ alert.alertType = group.alertType ∧
      alert.severity = group.severity
  findings : ∀ group ∈ (buildWeatherContext assets situation tenant).openBreachFindings,
    (∃ finding, OpenFinding situation tenant finding ∧ findingKey finding = group.key) ∧
      ∀ finding, OpenFinding situation tenant finding → findingKey finding = group.key →
        finding.severity = group.key.2.2
  accounts : ∃ hidden, Accounts situation tenant (buildWeatherContext assets situation tenant)
    hidden

/-- The alert of its type that was opened last. -/
def IsLatest (situation : Situation) (tenant : Nat) (latest : Alert) : Prop :=
  OpenAlert situation tenant latest ∧ ∀ other, OpenAlert situation tenant other →
    other.alertType = latest.alertType →
      other.openedAt < latest.openedAt ∨ other.openedAt = latest.openedAt ∧ latest.id ≤ other.id

/-- No open alert is more severe than the one of its type that was opened last. -/
def LatestWorst (situation : Situation) (tenant : Nat) : Prop :=
  ∀ latest, IsLatest situation tenant latest → latest.alertType ≠ .breachCompromise →
    ∀ other, OpenAlert situation tenant other → other.alertType = latest.alertType →
      statusRank (alertStatus other.severity) ≤ statusRank (alertStatus latest.severity)

/-! ## The mood -/

section Mood

variable {statuses : List Status} {start : Status}

theorem statusRank_worse (first second : Status) :
    statusRank (worse first second) = max (statusRank first) (statusRank second) := by
  cases first <;> cases second <;> rfl

theorem worse_eq (first second : Status) :
    worse first second = first ∨ worse first second = second := by
  rw [worse]
  split
  · exact .inr rfl
  · exact .inl rfl

/-- The worst of some statuses is one of them, and none is worse. -/
theorem foldl_worse_max (statuses : List Status) (start : Status) :
    (∀ status ∈ start :: statuses, statusRank status ≤ statusRank (statuses.foldl worse start)) ∧
      statuses.foldl worse start ∈ start :: statuses := by
  induction statuses generalizing start with
  | nil =>
      refine ⟨fun status listed => ?_, List.mem_singleton_self _⟩
      rw [List.mem_singleton.mp listed]
      rfl
  | cons status rest ih =>
      obtain ⟨upper, reached⟩ := ih (worse start status)
      rw [List.forall_mem_cons, statusRank_worse, max_le_iff] at upper
      rw [List.foldl_cons, List.forall_mem_cons, List.forall_mem_cons]
      refine ⟨⟨upper.1.1, upper.1.2, upper.2⟩, ?_⟩
      rcases List.mem_cons.mp reached with same | later
      · rw [same]
        rcases worse_eq start status with first | second
        · rw [first]
          exact List.mem_cons_self
        · rw [second]
          exact List.mem_cons_of_mem _ List.mem_cons_self
      · exact List.mem_cons_of_mem _ (List.mem_cons_of_mem _ later)

/-- Where nothing is well, one thing decides between clouds and a storm. -/
theorem foldl_worse_of_cloudy (cloudy : ∀ status ∈ statuses, status ≠ .ok) :
    statuses.foldl worse start =
      if .critical ∈ statuses then .critical
      else if statuses.isEmpty then start else worse start .warning := by
  induction statuses generalizing start with
  | nil => rfl
  | cons status rest ih =>
      rw [List.forall_mem_cons] at cloudy
      rw [List.foldl_cons, ih cloudy.2, List.isEmpty_cons]
      cases status with
      | ok => exact absurd rfl cloudy.1
      | warning =>
          have again : worse (worse start .warning) .warning = worse start .warning := by
            cases start <;> rfl
          rw [again, ite_self]
          simp
      | critical =>
          have storm : worse start .critical = .critical := by cases start <;> rfl
          have stays : worse .critical .warning = .critical := rfl
          rw [storm, stays, ite_self, ite_self]
          simp

theorem weatherMood_eq (checks : List Status) (alerts : List Alert)
    (findings : List BreachFinding) :
    weatherMood checks alerts findings =
      (checks ++ alerts.map (fun alert => alertStatus alert.severity) ++
        findings.map fun finding => findingStatus finding.severity).foldl worse .ok := by
  have cloudyAlerts : ∀ status ∈ alerts.map fun alert => alertStatus alert.severity,
      status ≠ .ok := by
    rintro _ listed rfl
    obtain ⟨alert, _, well⟩ := List.mem_map.mp listed
    cases severity : alert.severity <;> rw [severity] at well <;> cases well
  have cloudyFindings : ∀ status ∈ findings.map fun finding => findingStatus finding.severity,
      status ≠ .ok := by
    rintro _ listed rfl
    obtain ⟨finding, _, well⟩ := List.mem_map.mp listed
    cases severity : finding.severity <;> rw [severity] at well <;> cases well
  have stormAlerts : .critical ∈ alerts.map (fun alert => alertStatus alert.severity) ↔
      alerts.any (fun alert => alert.severity = .critical) = true := by
    rw [List.mem_map, List.any_eq_true]
    refine exists_congr fun alert => and_congr_right fun _ => ?_
    cases alert.severity <;> simp [alertStatus]
  have stormFindings : .critical ∈ findings.map (fun finding => findingStatus finding.severity) ↔
      findings.any (fun finding => finding.severity = .critical) = true := by
    rw [List.mem_map, List.any_eq_true]
    refine exists_congr fun finding => and_congr_right fun _ => ?_
    cases finding.severity <;> simp [findingStatus]
  rw [List.foldl_append, List.foldl_append, foldl_worse_of_cloudy cloudyFindings,
    foldl_worse_of_cloudy cloudyAlerts, weatherMood]
  simp only [stormAlerts, stormFindings, List.isEmpty_map]
  cases alerts with
  | nil => rfl
  | cons alert rest => rfl

end Mood

/-! ## Open alerts -/

section Alerts

variable {assets : Table Asset} {situation : Situation} {tenant : Nat} {alert : Alert}
  {group : AlertGroup}

/-- The alerts of the bulletin, with the values of their assets. -/
def shownAlerts (assets : Table Asset) (situation : Situation) (tenant : Nat) :
    List (Alert × String) :=
  ((listOpenAlerts situation.store.alerts tenant).filter fun alert =>
    alert.alertType ≠ .breachCompromise).map fun alert => (alert, assetValue assets alert.asset)

theorem mem_shownAlerts {row : Alert × String}
    (listed : row ∈ shownAlerts assets situation tenant) :
    OpenAlert situation tenant row.1 ∧ row.1.alertType ≠ .breachCompromise := by
  obtain ⟨alert, inside, rfl⟩ := List.mem_map.mp listed
  rw [List.mem_filter, mem_listOpenAlerts, decide_eq_true_eq] at inside
  exact inside

/-- The alerts come the most recent first. -/
theorem shownAlerts_ordered : (shownAlerts assets situation tenant).Pairwise fun first second =>
    second.1.openedAt < first.1.openedAt ∨
      second.1.openedAt = first.1.openedAt ∧ first.1.id ≤ second.1.id := by
  have total : Std.Total fun first second : Alert => second.openedAt ≤ first.openedAt :=
    ⟨fun _ _ => Nat.le_total _ _⟩
  have transitive : IsTrans Alert fun first second => second.openedAt ≤ first.openedAt :=
    ⟨fun _ _ _ first second => Nat.le_trans second first⟩
  have increasing : (situation.store.alerts.rows.filter fun alert =>
      alert.tenant = tenant && alert.isOpen).Pairwise fun first second => first.id < second.id :=
    situation.store.alerts.increasing.filter _
  have sorted : (listOpenAlerts situation.store.alerts tenant).Pairwise
      (StableBefore (fun first second => second.openedAt ≤ first.openedAt)
        fun first second => first.id < second.id) :=
    Leading.pairwise_insertionSort increasing
  refine List.pairwise_map.mpr ((sorted.filter _).imp fun {first second} before => ?_)
  obtain ⟨later, tie⟩ := before
  rcases Nat.lt_or_eq_of_le later with strict | same
  · exact .inl strict
  · exact .inr ⟨same, Nat.le_of_lt (tie (Nat.le_of_eq same.symm))⟩

theorem built_groupesAlertes (assets : Table Asset) (situation : Situation) (tenant : Nat) :
    List.Forall₂ (Built (fun row : Alert × String => row.1.alertType) AlertGroup.alertType
        AlertGroup.start AlertGroup.more (shownAlerts assets situation tenant))
      (keys (fun row => row.1.alertType) (shownAlerts assets situation tenant))
      (groupesAlertes assets situation tenant) :=
  built_foldl_addTo (fun row => (rfl : (AlertGroup.start row).alertType = row.1.alertType))
    (fun group row => (rfl : (group.more row).alertType = group.alertType)) _

theorem severity_foldl_more (others : List (Alert × String)) (group : AlertGroup) :
    (others.foldl AlertGroup.more group).severity = group.severity := by
  induction others generalizing group with
  | nil => rfl
  | cons row rest ih => exact ih (group.more row)

/-- A group is shown under the severity of the alert that was opened last. -/
theorem exists_latest (listed : group ∈ groupesAlertes assets situation tenant) :
    ∃ latest, IsLatest situation tenant latest ∧ latest.alertType = group.alertType ∧
      latest.alertType ≠ .breachCompromise ∧ latest.severity = group.severity := by
  obtain ⟨alertType, _, built⟩ :=
    exists_left_of_forall₂ (built_groupesAlertes assets situation tenant) listed
  obtain ⟨first, others, rows, grouped⟩ := built.built
  have ordered : (first :: others).Pairwise fun first second =>
      second.1.openedAt < first.1.openedAt ∨
        second.1.openedAt = first.1.openedAt ∧ first.1.id ≤ second.1.id :=
    rows ▸ shownAlerts_ordered.filter _
  have inside : first ∈ members (fun row : Alert × String => row.1.alertType)
      (shownAlerts assets situation tenant) alertType := rows ▸ List.mem_cons_self
  obtain ⟨shown, mine⟩ := mem_members.mp inside
  obtain ⟨isOpen, other⟩ := mem_shownAlerts shown
  refine ⟨first.1, ⟨isOpen, fun alert stillOpen same => ?_⟩, mine.trans built.named.symm, other, ?_⟩
  · have shownToo : (alert, assetValue assets alert.asset) ∈ first :: others := by
      rw [← rows]
      refine mem_members.mpr ⟨?_, same.trans mine⟩
      exact List.mem_map_of_mem (List.mem_filter.mpr
        ⟨mem_listOpenAlerts.mpr stillOpen, decide_eq_true (same ▸ other)⟩)
    rcases List.mem_cons.mp shownToo with itself | later
    · cases itself
      exact .inr ⟨rfl, Nat.le_refl _⟩
    · exact (List.pairwise_cons.mp ordered).1 _ later
  · rw [grouped, severity_foldl_more]
    rfl

/-- Each open alert that is not of a leak is in a group. -/
theorem exists_group (assets : Table Asset) (isOpen : OpenAlert situation tenant alert)
    (other : alert.alertType ≠ .breachCompromise) :
    ∃ group ∈ groupesAlertes assets situation tenant, group.alertType = alert.alertType := by
  have listed : (alert, assetValue assets alert.asset) ∈ shownAlerts assets situation tenant :=
    List.mem_map_of_mem (List.mem_filter.mpr ⟨mem_listOpenAlerts.mpr isOpen, decide_eq_true other⟩)
  obtain ⟨group, inside, built⟩ := exists_right_of_forall₂
    (built_groupesAlertes assets situation tenant) (mem_keys.mpr ⟨_, listed, rfl⟩)
  exact ⟨group, inside, built.named⟩

/-- The groups of the bulletin, with their severities left out. -/
theorem groupesAlertes_shown (assets : Table Asset) (situation : Situation) (tenant : Nat) :
    (groupesAlertes assets situation tenant).map
        (fun group => (group.alertType, group.assets, group.count)) =
      (buildWeatherContext assets situation tenant).openAlerts.map
        fun group => (group.key, group.assets, group.count) := by
  let start (row : Alert × String) : AlertType × List String := (row.1.alertType, [row.2])
  let more (group : AlertType × List String) (row : Alert × String) : AlertType × List String :=
    (group.1, if group.2.contains row.2 then group.2 else group.2 ++ [row.2])
  have here : (groupesAlertes assets situation tenant).map
        (fun group => (group.alertType, group.assets)) =
      (shownAlerts assets situation tenant).foldl
        (addTo Prod.fst (fun row => row.1.alertType) start more) [] := by
    refine map_foldl_addTo ?_ ?_ ?_ _ []
    · exact fun _ => rfl
    · exact fun _ => rfl
    · exact fun _ _ => rfl
  have there : (((shownAlerts assets situation tenant).map fun row =>
          (row.1.alertType, row.2)).foldl addToGroups []).map
        (fun group => (group.key, group.assets)) =
      (shownAlerts assets situation tenant).foldl
        (addTo Prod.fst (fun row => row.1.alertType) start more) [] := by
    rw [List.foldl_map]
    refine map_foldl_addTo ?_ ?_ ?_ (shownAlerts assets situation tenant) []
    · exact fun _ => rfl
    · exact fun _ => rfl
    · exact fun _ _ => rfl
  have groups := congrArg (List.map fun group => (group.1, group.2, group.2.length))
    (here.trans there.symm)
  rw [List.map_map, List.map_map] at groups
  rw [buildWeatherContext, List.map_map]
  rw [shownAlerts, List.map_map] at groups
  exact groups

theorem IsLatest.eq {latest : Alert} (first : IsLatest situation tenant alert)
    (second : IsLatest situation tenant latest) (same : alert.alertType = latest.alertType) :
    alert = latest := by
  have forth := second.2 alert first.1 same
  have back := first.2 latest second.1 same.symm
  have ids : alert.id = latest.id := by omega
  exact Table.ident_injective first.1.1 second.1.1 ids

/-- The groups of alerts show the worst of their alerts where the last one is the worst. -/
theorem alerts_worst_iff :
    (∀ group ∈ groupesAlertes assets situation tenant, ∀ alert,
      OpenAlert situation tenant alert → alert.alertType = group.alertType →
        statusRank (alertStatus alert.severity) ≤ statusRank (alertStatus group.severity)) ↔
      LatestWorst situation tenant := by
  constructor
  · intro worst latest isLatest other alert isOpen same
    obtain ⟨group, listed, grouped⟩ := exists_group assets isLatest.1 other
    obtain ⟨shown, shownLatest, mine, _, severity⟩ := exists_latest listed
    cases shownLatest.eq isLatest (mine.trans grouped)
    rw [severity]
    exact worst group listed alert isOpen (same.trans grouped.symm)
  · intro worst group listed alert isOpen same
    obtain ⟨latest, isLatest, mine, other, severity⟩ := exists_latest listed
    rw [← severity]
    exact worst latest isLatest other alert isOpen (same.trans mine.symm)

end Alerts

/-! ## The mood -/

section Bulletin

variable {assets : Table Asset} {situation : Situation} {tenant : Nat}

/-- The findings in the order of the bulletin, the most severe first. -/
def sortedFindings (assets : Table Asset) (situation : Situation) (tenant : Nat) :
    List BreachFinding :=
  (listOpenFindings situation.store.findings tenant).insertionSort fun first second =>
    severityRank first.severity < severityRank second.severity ∨
      severityRank first.severity = severityRank second.severity ∧
        assetValue assets first.asset ≤ assetValue assets second.asset

theorem mem_sortedFindings {finding : BreachFinding} :
    finding ∈ sortedFindings assets situation tenant ↔ OpenFinding situation tenant finding :=
  List.mem_insertionSort _ |>.trans mem_listOpenFindings

/-- What the mood is the worst of. -/
def weatherStatuses (assets : Table Asset) (situation : Situation) (tenant : Nat) : List Status :=
  ((listAssets assets tenant).map (assetRow situation.results)).flatMap
      (fun row => row.checks.map Prod.snd) ++
    (listOpenAlerts situation.store.alerts tenant).map (fun alert => alertStatus alert.severity) ++
    (sortedFindings assets situation tenant).map fun finding => findingStatus finding.severity

theorem mem_weatherStatuses {status : Status} :
    status ∈ weatherStatuses assets situation tenant ↔
      InWeather assets situation tenant status := by
  rw [weatherStatuses, List.mem_append, List.mem_append, or_assoc, InWeather]
  refine or_congr mem_lastStatuses (or_congr ?_ ?_)
  · rw [List.mem_map]
    exact exists_congr fun alert => and_congr_left fun _ => mem_listOpenAlerts
  · rw [List.mem_map]
    exact exists_congr fun finding => and_congr_left fun _ => mem_sortedFindings

/-- The mood is the worst of what there is. -/
theorem mood_worst (assets : Table Asset) (situation : Situation) (tenant : Nat) :
    (∀ status, InWeather assets situation tenant status →
      statusRank status ≤ statusRank (buildWeatherContext assets situation tenant).mood) ∧
      ((buildWeatherContext assets situation tenant).mood = .ok ∨
        InWeather assets situation tenant (buildWeatherContext assets situation tenant).mood) := by
  have mood : (buildWeatherContext assets situation tenant).mood =
      (weatherStatuses assets situation tenant).foldl worse .ok :=
    weatherMood_eq _ _ _
  obtain ⟨upper, reached⟩ := foldl_worse_max (weatherStatuses assets situation tenant) .ok
  rw [mood]
  refine ⟨fun status inside => upper status (List.mem_cons_of_mem _ ?_), ?_⟩
  · exact mem_weatherStatuses.mpr inside
  · exact (List.mem_cons.mp reached).imp_right mem_weatherStatuses.mp

end Bulletin

/-! ## The groups of findings -/

section Findings

variable {assets : Table Asset} {situation : Situation} {tenant : Nat}
  {group : Group (SourceEndpoint × String × Severity)}

/-- The rows of the findings, under their keys. -/
def findingRows (assets : Table Asset) (situation : Situation) (tenant : Nat) :
    List ((SourceEndpoint × String × Severity) × String) :=
  (sortedFindings assets situation tenant).map fun finding =>
    (findingKey finding, assetValue assets finding.asset)

/-- All the groups of findings, shown or not. -/
def findingGroups (assets : Table Asset) (situation : Situation) (tenant : Nat) :
    List (Group (SourceEndpoint × String × Severity)) :=
  (findingRows assets situation tenant).foldl addToGroups []

/-- The group of one row. -/
def Group.start {Key : Type} (row : Key × String) : Group Key := ⟨row.1, 1, [row.2]⟩

/-- A group counts one more row. -/
def Group.more {Key : Type} (group : Group Key) (row : Key × String) : Group Key :=
  { group with
    count := group.count + 1
    assets := if group.assets.contains row.2 then group.assets else group.assets ++ [row.2] }

theorem count_foldl_more {Key : Type} (others : List (Key × String)) (group : Group Key) :
    (others.foldl Group.more group).count = group.count + others.length := by
  induction others generalizing group with
  | nil => rfl
  | cons row rest ih =>
      rw [List.foldl_cons, ih, List.length_cons]
      exact Nat.succ_add_eq_add_succ group.count rest.length

theorem built_findingGroups (assets : Table Asset) (situation : Situation) (tenant : Nat) :
    List.Forall₂ (Built Prod.fst Group.key Group.start Group.more
        (findingRows assets situation tenant))
      (keys Prod.fst (findingRows assets situation tenant))
      (findingGroups assets situation tenant) :=
  built_foldl_addTo (fun row => (rfl : (Group.start row).key = row.1))
    (fun group row => (rfl : (group.more row).key = group.key)) _

theorem map_key_findingGroups (assets : Table Asset) (situation : Situation) (tenant : Nat) :
    (findingGroups assets situation tenant).map Group.key =
      keys Prod.fst (findingRows assets situation tenant) := by
  have named : (keys Prod.fst (findingRows assets situation tenant)).map id =
      (findingGroups assets situation tenant).map Group.key :=
    map_eq_of_forall₂ (built_findingGroups assets situation tenant)
      fun _ _ built => built.named.symm
  rw [← named, List.map_id]

theorem count_of_built {value : SourceEndpoint × String × Severity}
    (built : Built Prod.fst Group.key Group.start Group.more
      (findingRows assets situation tenant) value group) :
    group.count = (members Prod.fst (findingRows assets situation tenant) value).length := by
  obtain ⟨first, others, rows, rfl⟩ := built.built
  rw [count_foldl_more, rows, List.length_cons]
  exact Nat.add_comm 1 others.length

/-- A group counts the open findings of its kind. -/
theorem count_findingGroup (listed : group ∈ findingGroups assets situation tenant) :
    group.count = situation.store.findings.rows.countP fun finding =>
      (finding.tenant = tenant && finding.status = .open) && findingKey finding = group.key := by
  obtain ⟨value, _, built⟩ :=
    exists_left_of_forall₂ (built_findingGroups assets situation tenant) listed
  rw [count_of_built built, built.named, members, ← List.countP_eq_length_filter, findingRows,
    List.countP_map, sortedFindings, (List.perm_insertionSort _ _).countP_eq, listOpenFindings,
    (List.perm_insertionSort _ _).countP_eq, List.countP_filter]
  refine List.countP_congr fun finding _ => ?_
  simp only [Function.comp_apply, Bool.and_eq_true, decide_eq_true_eq]
  exact and_comm

theorem sum_count_findingGroups (assets : Table Asset) (situation : Situation) (tenant : Nat) :
    ((findingGroups assets situation tenant).map Group.count).sum =
      (sortedFindings assets situation tenant).length := by
  have sizes : (keys Prod.fst (findingRows assets situation tenant)).map
      (fun value => (members Prod.fst (findingRows assets situation tenant) value).length) =
        (findingGroups assets situation tenant).map Group.count :=
    map_eq_of_forall₂ (built_findingGroups assets situation tenant)
      fun _ _ built => (count_of_built built).symm
  rw [← sizes, sum_length_members, findingRows, List.length_map]

/-- Each open finding is in a group of its kind. -/
theorem mem_map_key_findingGroups {value : SourceEndpoint × String × Severity} :
    value ∈ (findingGroups assets situation tenant).map Group.key ↔
      ∃ finding, OpenFinding situation tenant finding ∧ findingKey finding = value := by
  rw [map_key_findingGroups, mem_keys]
  constructor
  · rintro ⟨row, inside, rfl⟩
    obtain ⟨finding, listed, rfl⟩ := List.mem_map.mp inside
    exact ⟨finding, mem_sortedFindings.mp listed, rfl⟩
  · rintro ⟨finding, isOpen, rfl⟩
    exact ⟨_, List.mem_map_of_mem (mem_sortedFindings.mpr isOpen), rfl⟩

/-- The findings come the most severe first. -/
theorem sortedFindings_ordered (assets : Table Asset) (situation : Situation) (tenant : Nat) :
    (sortedFindings assets situation tenant).Pairwise fun first second =>
      severityRank first.severity ≤ severityRank second.severity := by
  let before : BreachFinding → BreachFinding → Prop := fun first second =>
    severityRank first.severity < severityRank second.severity ∨
      severityRank first.severity = severityRank second.severity ∧
        assetValue assets first.asset ≤ assetValue assets second.asset
  have total : Std.Total before := by
    refine ⟨fun first second => ?_⟩
    rcases Nat.lt_trichotomy (severityRank first.severity) (severityRank second.severity) with
      less | same | more
    · exact .inl (.inl less)
    · exact (String.le_total (assetValue assets first.asset) (assetValue assets second.asset)).imp
        (fun le => .inr ⟨same, le⟩) fun le => .inr ⟨same.symm, le⟩
    · exact .inr (.inl more)
  have transitive : IsTrans BreachFinding before := by
    refine ⟨fun first second third forth again => ?_⟩
    rcases forth with less | ⟨same, le⟩
    · rcases again with less' | ⟨same', _⟩
      · exact .inl (less.trans less')
      · exact .inl (same' ▸ less)
    · rcases again with less' | ⟨same', le'⟩
      · exact .inl (same ▸ less')
      · exact .inr ⟨same.trans same', String.le_trans le le'⟩
  have sorted : (sortedFindings assets situation tenant).Pairwise before :=
    List.pairwise_insertionSort before _
  refine sorted.imp fun {first second} le => ?_
  rcases le with less | ⟨same, _⟩
  · exact Nat.le_of_lt less
  · exact Nat.le_of_eq same

theorem findingGroups_ordered (assets : Table Asset) (situation : Situation) (tenant : Nat) :
    (findingGroups assets situation tenant).Pairwise fun first second =>
      severityRank first.key.2.2 ≤ severityRank second.key.2.2 := by
  have ordered : (keys Prod.fst (findingRows assets situation tenant)).Pairwise
      fun first second => severityRank first.2.2 ≤ severityRank second.2.2 :=
    pairwise_keys (List.pairwise_map.mpr (sortedFindings_ordered assets situation tenant))
  rw [← map_key_findingGroups, List.pairwise_map] at ordered
  exact ordered

/-- The groups after those that are shown are the hidden ones. -/
theorem accounts_drop (assets : Table Asset) (situation : Situation) (tenant : Nat) :
    Accounts situation tenant (buildWeatherContext assets situation tenant)
      ((findingGroups assets situation tenant).drop weatherMaxBreachTypes) := by
  have parted : (buildWeatherContext assets situation tenant).openBreachFindings ++
      (findingGroups assets situation tenant).drop weatherMaxBreachTypes =
        findingGroups assets situation tenant :=
    List.take_append_drop weatherMaxBreachTypes (findingGroups assets situation tenant)
  exact {
    count := List.length_drop
    distinct := by
      rw [parted, map_key_findingGroups]
      exact nodup_keys _ _
    grouped := by
      intro finding isOpen
      rw [parted]
      exact List.mem_map.mp (mem_map_key_findingGroups.mpr ⟨finding, isOpen, rfl⟩)
    counts := by
      rw [parted]
      exact fun group listed => count_findingGroup listed
    total := by
      rw [parted]
      exact sum_count_findingGroups assets situation tenant
    severe := fun shown first group last =>
      before_of_hidden (findingGroups_ordered assets situation tenant) first last }

/-- The severity of a group is that of each of its findings. -/
theorem severity_findingGroup
    (listed : group ∈ (buildWeatherContext assets situation tenant).openBreachFindings) :
    (∃ finding, OpenFinding situation tenant finding ∧ findingKey finding = group.key) ∧
      ∀ finding, OpenFinding situation tenant finding → findingKey finding = group.key →
        finding.severity = group.key.2.2 := by
  have inside : group ∈ findingGroups assets situation tenant := List.mem_of_mem_take listed
  refine ⟨mem_map_key_findingGroups.mp (List.mem_map_of_mem inside), fun finding _ same => ?_⟩
  rw [← same]
  rfl

end Findings

/-- The mood is the worst of the last checks, the open alerts and the open findings, and the groups
that are shown and hidden have each finding under its severity; each group of alerts has the worst
severity of its alerts exactly when no open alert is more severe than the one of its type that was
opened last. -/
theorem shows_severities_iff (assets : Table Asset) (situation : Situation) (tenant : Nat) :
    ShowsSeverities assets situation tenant ↔ LatestWorst situation tenant := by
  constructor
  · intro shows
    exact alerts_worst_iff.mp shows.alerts_le
  · intro latest
    obtain ⟨mood_le, mood_mem⟩ := mood_worst assets situation tenant
    refine ⟨mood_le, mood_mem, alerts_worst_iff.mpr latest, ?_, ?_, ⟨_, accounts_drop _ _ _⟩⟩
    · intro group listed
      obtain ⟨latest, ⟨isOpen, _⟩, same, _, severity⟩ := exists_latest listed
      exact ⟨latest, isOpen, same, severity⟩
    · exact fun group listed => severity_findingGroup listed

/-! Two certificates that expire: the first one is urgent, the other alert is opened later. -/

def secondSite (key : Nat) : Asset := ⟨key, 1, .website, "https://boutique.acme.fr", true⟩

theorem ident_secondSite (key : Nat) : ident (secondSite key) = key := rfl

def twoSites : Table Asset := watchedSite.create secondSite ident_secondSite

def urgentCertificate (key : Nat) : Alert :=
  ⟨key, 1, 0, .sslExpiring, .critical, true, .sslExpiring 3 none [30, 14, 7], 10, 10, none⟩

def laterCertificate (key : Nat) : Alert :=
  ⟨key, 1, 1, .sslExpiring, .warning, true, .sslExpiring 20 none [30], 20, 20, none⟩

theorem ident_urgentCertificate (key : Nat) : ident (urgentCertificate key) = key := rfl

theorem ident_laterCertificate (key : Nat) : ident (laterCertificate key) = key := rfl

def twoCertificates : Situation :=
  ⟨Table.empty, ⟨Table.empty, (Table.empty.create urgentCertificate ident_urgentCertificate).create
    laterCertificate ident_laterCertificate, Table.empty⟩⟩

/-- The group of the two alerts is shown as a warning. -/
theorem later_certificate_is_shown :
    ¬ShowsSeverities twoSites twoCertificates 1 := by
  intro shows
  have listed : (⟨.sslExpiring, .warning, ["https://boutique.acme.fr", "https://acme.fr"]⟩ :
      AlertGroup) ∈ groupesAlertes twoSites twoCertificates 1 := by
    decide +kernel
  have urgent : urgentCertificate 0 ∈ twoCertificates.store.alerts.rows := by
    decide +kernel
  have worst : 2 ≤ 1 := shows.alerts_le _ listed (urgentCertificate 0) ⟨urgent, rfl, rfl⟩ rfl
  omega

end RssiService.Notifications
