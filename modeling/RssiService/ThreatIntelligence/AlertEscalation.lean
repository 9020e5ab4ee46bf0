import Mathlib.Order.Bounds.Basic
import RssiService.ThreatIntelligence.Ingestion

/-!
# The severity of a breach alert

The findings of an asset are attached to its open breach alert.  Every new
finding writes its own severity there, whatever is attached already: the alert
shows the severity of the last finding, not of the worst one.
-/

namespace RssiService.Monitoring

/-! ## The order of severities -/

def AlertSeverity.rank : AlertSeverity → Nat
  | .warning => 0
  | .critical => 1

theorem AlertSeverity.rank_injective : Function.Injective AlertSeverity.rank := by
  intro first second same
  cases first <;> cases second <;> first | rfl | cases same

instance : LinearOrder AlertSeverity := LinearOrder.lift' _ AlertSeverity.rank_injective

end RssiService.Monitoring

namespace RssiService.ThreatIntelligence

open Foundation Foundation.Run Python
open Monitoring (Asset Alert AlertSeverity AlertDetails openOrUpdateAlert findOpen)

/-! ## What is attached -/

/-- The severities of the findings attached to an alert. -/
def attachedSeverities (store : Store) (alert : Nat) : Set AlertSeverity :=
  {severity | ∃ finding ∈ store.findings, finding.alert = some alert ∧
    findingSeverityToAlertSeverity finding.severity = severity}

/-- Every open breach alert has the highest severity attached to it. -/
def SeverityTracked (store : Store) : Prop :=
  ∀ alert ∈ store.alerts, alert.alertType = .breachCompromise → alert.isOpen = true →
    IsGreatest (attachedSeverities store alert.id) alert.severity

/-- The alerts of the findings are rows of the table. -/
def AlertsLinked (store : Store) : Prop :=
  ∀ finding ∈ store.findings, ∀ alert, finding.alert = some alert → alert < store.alerts.next

/-! ## The condition -/

/-- The record gets as far as the alert of its asset: nothing interrupts it and
its leak is unknown. -/
def ReachesAlert (runtime : Runtime) (tenant : Nat) (progress : Progress) (delivery : Delivery) :
    Prop :=
  let normalized := normalizeFinding runtime delivery.raw.endpoint delivery.raw.payload
  progress.failure = none ∧ delivery.raw.isTest = false ∧
    (normalized.secretPlain = "" ∨ delivery.fault ≠ some .encryption) ∧
    delivery.fault ≠ some .lookup ∧
    findExistingFinding progress.store tenant normalized = none ∧
    delivery.fault ≠ some .insertion ∧ delivery.fault ≠ some .alert

/-- The severity a record writes on the alert of its asset. -/
def recordSeverity (delivery : Delivery) : AlertSeverity :=
  findingSeverityToAlertSeverity (computeSeverity delivery.raw.endpoint (.obj delivery.raw.payload))

/-- A record that reaches the open alert of its asset is at least as severe, and
is attached unless the alert already has its severity. -/
def NotMilder (runtime : Runtime) (tenant : Nat) (asset : Asset) (progress : Progress)
    (delivery : Delivery) : Prop :=
  ReachesAlert runtime tenant progress delivery →
    match findOpen progress.store.alerts asset.id .breachCompromise with
    | none => delivery.fault ≠ some .attachment
    | some standing =>
        standing.severity ≤ recordSeverity delivery ∧
          (delivery.fault = some .attachment → standing.severity = recordSeverity delivery)

/-- Every record of the batch meets the condition. -/
def NothingMilder (runtime : Runtime) (store : Store) : Event → Prop
  | .ingest tenant asset now report deliveries =>
      EachStep (ingestRecord runtime tenant asset now) (NotMilder runtime tenant asset)
        (Progress.start store report) deliveries
  | .setStatus _ _ _ _ _ => True

/-- The severities are tracked after every record of the batch. -/
def TrackedThroughout (runtime : Runtime) (store : Store) : Event → Prop
  | .ingest tenant asset now report deliveries =>
      Always (ingestRecord runtime tenant asset now) (fun progress => SeverityTracked progress.store)
        (Progress.start store report) deliveries
  | .setStatus tenant finding status user now =>
      SeverityTracked (step runtime store (.setStatus tenant finding status user now))

/-! ## Writes that move no severity -/

section Frames

variable {store : Store}

/-- An update that keeps the alert and the severity of every finding. -/
theorem attachedSeverities_modify {key : Nat} {change : BreachFinding → BreachFinding}
    {keeps : ∀ row, ident (change row) = ident row}
    (same : ∀ row, (change row).alert = row.alert ∧ (change row).severity = row.severity)
    (alert : Nat) :
    attachedSeverities (store.modifyFinding key change keeps) alert =
      attachedSeverities store alert := by
  have sameRow (row : BreachFinding) :
      (if row.id = key then change row else row).alert = row.alert ∧
        (if row.id = key then change row else row).severity = row.severity := by
    split
    · exact same row
    · exact ⟨rfl, rfl⟩
  ext severity
  simp only [attachedSeverities, mem_modifyFinding, Set.mem_ofPred_eq]
  constructor
  · rintro ⟨_, ⟨row, inside, rfl⟩, attached, rfl⟩
    rw [(sameRow row).1] at attached
    exact ⟨row, inside, attached, by rw [(sameRow row).2]⟩
  · rintro ⟨row, inside, attached, rfl⟩
    exact ⟨_, ⟨row, inside, rfl⟩, (sameRow row).1.trans attached, by rw [(sameRow row).2]⟩

theorem severityTracked_modify {key : Nat} {change : BreachFinding → BreachFinding}
    {keeps : ∀ row, ident (change row) = ident row}
    (same : ∀ row, (change row).alert = row.alert ∧ (change row).severity = row.severity) :
    SeverityTracked (store.modifyFinding key change keeps) ↔ SeverityTracked store := by
  refine forall₂_congr fun alert _ => imp_congr_right fun _ => imp_congr_right fun _ => ?_
  rw [attachedSeverities_modify same]

theorem alertsLinked_modify (linked : AlertsLinked store) {key : Nat}
    {change : BreachFinding → BreachFinding} {keeps : ∀ row, ident (change row) = ident row}
    (same : ∀ row, (change row).alert = row.alert) :
    AlertsLinked (store.modifyFinding key change keeps) := by
  intro finding member alert attached
  obtain ⟨row, inside, rfl⟩ := mem_modifyFinding.mp member
  apply linked row inside alert
  split at attached
  · rw [← same row, attached]
  · exact attached

/-- A row inserted without alert is attached nowhere. -/
theorem attachedSeverities_insert {build : Nat → BreachFinding}
    {ident_build : ∀ key, ident (build key) = key}
    (unattached : (build store.findings.next).alert = none) (alert : Nat) :
    attachedSeverities (store.insertFinding build ident_build) alert =
      attachedSeverities store alert := by
  ext severity
  simp only [attachedSeverities, mem_insertFinding, Set.mem_ofPred_eq]
  constructor
  · rintro ⟨row, inside | rfl, attached, rfl⟩
    · exact ⟨row, inside, attached, rfl⟩
    · rw [unattached] at attached
      cases attached
  · rintro ⟨row, inside, attached, rfl⟩
    exact ⟨row, Or.inl inside, attached, rfl⟩

theorem severityTracked_insert {build : Nat → BreachFinding}
    {ident_build : ∀ key, ident (build key) = key} (tracked : SeverityTracked store)
    (unattached : (build store.findings.next).alert = none) :
    SeverityTracked (store.insertFinding build ident_build) := by
  intro alert member isBreach isOpen
  rw [attachedSeverities_insert unattached]
  exact tracked alert member isBreach isOpen

/-- Attaching an unattached finding adds its severity to those of its alert. -/
theorem attachedSeverities_attach {finding : BreachFinding} (member : finding ∈ store.findings)
    (unattached : finding.alert = none) (target alert : Nat) :
    attachedSeverities
        (store.modifyFinding finding.id (fun row => { row with alert := some target })
          (fun _ => rfl)) alert =
      if alert = target then
        insert (findingSeverityToAlertSeverity finding.severity) (attachedSeverities store alert)
      else attachedSeverities store alert := by
  have others : ∀ row ∈ store.findings, row.alert = some alert → row.id ≠ finding.id := by
    intro row inside attached sameId
    rw [Table.ident_injective inside member sameId, unattached] at attached
    cases attached
  ext severity
  simp only [attachedSeverities, mem_modifyFinding_of_mem member, Set.mem_ofPred_eq]
  constructor
  · rintro ⟨row, rfl | ⟨inside, _⟩, attached, rfl⟩
    · rw [if_pos (Option.some.inj attached).symm]
      exact Set.mem_insert _ _
    · split
      · exact Set.mem_insert_of_mem _ ⟨row, inside, attached, rfl⟩
      · exact ⟨row, inside, attached, rfl⟩
  · intro attached
    split at attached
    · rename_i here
      rcases attached with rfl | ⟨row, inside, attached, rfl⟩
      · exact ⟨_, Or.inl rfl, congrArg some here.symm, rfl⟩
      · exact ⟨row, Or.inr ⟨inside, others row inside attached⟩, attached, rfl⟩
    · obtain ⟨row, inside, attached, rfl⟩ := attached
      exact ⟨row, Or.inr ⟨inside, others row inside attached⟩, attached, rfl⟩

end Frames

/-! ## The alert a new finding writes -/

section Writing

variable {store later : Store} {now : Nat} {asset : Asset} {alert : Alert}

/-- Where one breach alert is written and the others stay, the severities are
tracked exactly when the written one is. -/
theorem severityTracked_iff_written (tracked : SeverityTracked store)
    (breach : alert.openFor asset.id .breachCompromise = true)
    (rows : ∀ other, other ∈ later.alerts ↔
      (other ∈ store.alerts ∧ other.id ≠ alert.id) ∨ other = alert)
    (elsewhere : ∀ key, key ≠ alert.id →
      attachedSeverities later key = attachedSeverities store key) :
    SeverityTracked later ↔ IsGreatest (attachedSeverities later alert.id) alert.severity := by
  obtain ⟨_, isBreach, isOpen⟩ := Monitoring.openFor_iff.mp breach
  constructor
  · intro all
    exact all alert ((rows alert).mpr (Or.inr rfl)) isBreach isOpen
  · intro written other member otherBreach otherOpen
    rcases (rows other).mp member with ⟨old, apart⟩ | rfl
    · rw [elsewhere other.id apart]
      exact tracked other old otherBreach otherOpen
    · exact written

theorem greatest_of_findOpen (tracked : SeverityTracked store)
    (found : findOpen store.alerts asset.id .breachCompromise = some alert) :
    IsGreatest (attachedSeverities store alert.id) alert.severity := by
  obtain ⟨member, isOpen⟩ := Monitoring.mem_of_findOpen found
  obtain ⟨_, isBreach, isOpen⟩ := Monitoring.openFor_iff.mp isOpen
  exact tracked alert member isBreach isOpen

/-- No finding is attached to an alert that is not created yet. -/
theorem attachedSeverities_next (linked : AlertsLinked store) :
    attachedSeverities store store.alerts.next = ∅ := by
  apply Set.eq_empty_iff_forall_notMem.mpr
  rintro severity ⟨finding, member, attached, _⟩
  exact Nat.lt_irrefl _ (linked finding member _ attached)

/-- Among the severities attached to an alert and one more, that one is the
highest exactly when the alert had no higher one. -/
theorem isGreatest_insert_iff {severities : Set AlertSeverity} {standing severity : AlertSeverity}
    (greatest : IsGreatest severities standing) :
    IsGreatest (insert severity severities) severity ↔ standing ≤ severity := by
  constructor
  · intro highest
    exact highest.2 (Set.mem_insert_of_mem _ greatest.1)
  · intro above
    have both := greatest.insert severity
    rwa [max_eq_left above] at both

theorem isGreatest_iff_eq {severities : Set AlertSeverity} {standing severity : AlertSeverity}
    (greatest : IsGreatest severities standing) :
    IsGreatest severities severity ↔ standing = severity := by
  constructor
  · exact greatest.unique
  · rintro rfl
    exact greatest

/-- What is attached to the alert that was opened or updated, before the finding is. -/
theorem attachedSeverities_opened {severity : AlertSeverity} {details : AlertDetails}
    {alerts : Table Alert} {changed : Bool} (linked : AlertsLinked store)
    (tracked : SeverityTracked store)
    (opened : Monitoring.OpenedAs store.alerts asset .breachCompromise severity details
      (alerts, alert, changed)) :
    match findOpen store.alerts asset.id .breachCompromise with
    | none => attachedSeverities store alert.id = ∅
    | some standing => IsGreatest (attachedSeverities store alert.id) standing.severity := by
  have key := opened.key
  split
  · rename_i none
    rw [none] at key
    rw [show alert.id = store.alerts.next from key]
    exact attachedSeverities_next linked
  · rename_i standing found
    rw [found] at key
    rw [show alert.id = standing.id from key]
    exact greatest_of_findOpen tracked found

/-- An alert written for a finding that is not attached to it. -/
theorem severityTracked_unlinked_iff {severity : AlertSeverity} {details : AlertDetails}
    {alerts : Table Alert} {changed : Bool} (linked : AlertsLinked store)
    (tracked : SeverityTracked store)
    (opened : Monitoring.OpenedAs store.alerts asset .breachCompromise severity details
      (alerts, alert, changed)) :
    SeverityTracked { store with alerts } ↔
      match findOpen store.alerts asset.id .breachCompromise with
      | none => False
      | some standing => standing.severity = severity := by
  have written : SeverityTracked { store with alerts } ↔
      IsGreatest (attachedSeverities store alert.id) alert.severity :=
    severityTracked_iff_written tracked opened.openFor opened.rows fun _ _ => rfl
  have before := attachedSeverities_opened linked tracked opened
  rw [written]
  split at before
  · rw [before]
    exact iff_of_false (fun greatest => Set.notMem_empty _ greatest.1) id
  · rw [isGreatest_iff_eq before, opened.severity_eq]

/-- An alert written for a finding that is then attached to it. -/
theorem severityTracked_linked_iff {finding : BreachFinding} {details : AlertDetails}
    {alerts : Table Alert} {changed : Bool} (linked : AlertsLinked store)
    (tracked : SeverityTracked store) (member : finding ∈ store.findings)
    (unattached : finding.alert = none)
    (opened : Monitoring.OpenedAs store.alerts asset .breachCompromise
      (findingSeverityToAlertSeverity finding.severity) details (alerts, alert, changed)) :
    SeverityTracked (Store.modifyFinding { store with alerts } finding.id
        (fun row => { row with alert := some alert.id }) (fun _ => rfl)) ↔
      match findOpen store.alerts asset.id .breachCompromise with
      | none => True
      | some standing => standing.severity ≤ findingSeverityToAlertSeverity finding.severity := by
  have attached (key : Nat) : attachedSeverities
      (Store.modifyFinding { store with alerts } finding.id
        (fun row => { row with alert := some alert.id }) (fun _ => rfl)) key =
      if key = alert.id then
        insert (findingSeverityToAlertSeverity finding.severity) (attachedSeverities store key)
      else attachedSeverities store key :=
    @attachedSeverities_attach { store with alerts } finding member unattached alert.id key
  have written : SeverityTracked (Store.modifyFinding { store with alerts } finding.id
      (fun row => { row with alert := some alert.id }) (fun _ => rfl)) ↔ _ :=
    severityTracked_iff_written tracked opened.openFor opened.rows
      fun key apart => (attached key).trans (if_neg apart)
  have before := attachedSeverities_opened linked tracked opened
  rw [written, attached, if_pos rfl, opened.severity_eq]
  split at before
  · rw [before]
    exact iff_of_true (by simp) trivial
  · exact isGreatest_insert_iff before

/-- After the alert of an unattached finding, the severities are tracked exactly
when the finding is no milder than the open alert, and is attached unless the
alert has its severity already. -/
theorem severityTracked_raiseAlert_iff {progress : Progress} {fault : Option Fault}
    {finding : BreachFinding} (linked : AlertsLinked progress.store)
    (tracked : SeverityTracked progress.store) (member : finding ∈ progress.store.findings)
    (unattached : finding.alert = none) :
    SeverityTracked (raiseAlert asset now progress fault finding).store ↔
      (fault ≠ some .alert →
        match findOpen progress.store.alerts asset.id .breachCompromise with
        | none => fault ≠ some .attachment
        | some standing =>
            standing.severity ≤ findingSeverityToAlertSeverity finding.severity ∧
              (fault = some .attachment →
                standing.severity = findingSeverityToAlertSeverity finding.severity)) := by
  rw [raiseAlert]
  split
  · rename_i stopped
    exact iff_of_true tracked fun apart => absurd stopped apart
  rename_i goesOn
  rw [imp_iff_right goesOn]
  have opened : Monitoring.OpenedAs progress.store.alerts asset .breachCompromise
      (findingSeverityToAlertSeverity finding.severity) finding.alertDetails
      (openOrUpdateAlert now progress.store.alerts asset .breachCompromise
        (findingSeverityToAlertSeverity finding.severity) finding.alertDetails) :=
    Monitoring.openOrUpdateAlert_spec
  revert opened
  generalize openOrUpdateAlert now progress.store.alerts asset .breachCompromise
    (findingSeverityToAlertSeverity finding.severity) finding.alertDetails = result
  obtain ⟨alerts, alert, changed⟩ := result
  intro opened
  dsimp only
  split
  · rename_i unlinked
    apply (severityTracked_unlinked_iff linked tracked opened).trans
    split
    · exact iff_of_false id (not_not.mpr unlinked)
    · exact ⟨fun same => ⟨le_of_eq same, fun _ => same⟩, fun both => both.2 unlinked⟩
  · rename_i attaches
    apply (severityTracked_linked_iff linked tracked member unattached opened).trans
    split
    · exact iff_of_true trivial attaches
    · exact ⟨fun above => ⟨above, fun unlinked => absurd unlinked attaches⟩, And.left⟩

theorem alertsLinked_raiseAlert {progress : Progress} {fault : Option Fault}
    {finding : BreachFinding} (linked : AlertsLinked progress.store) :
    AlertsLinked (raiseAlert asset now progress fault finding).store := by
  rw [raiseAlert]
  split
  · exact linked
  have opened : Monitoring.OpenedAs progress.store.alerts asset .breachCompromise
      (findingSeverityToAlertSeverity finding.severity) finding.alertDetails
      (openOrUpdateAlert now progress.store.alerts asset .breachCompromise
        (findingSeverityToAlertSeverity finding.severity) finding.alertDetails) :=
    Monitoring.openOrUpdateAlert_spec
  revert opened
  generalize openOrUpdateAlert now progress.store.alerts asset .breachCompromise
    (findingSeverityToAlertSeverity finding.severity) finding.alertDetails = result
  obtain ⟨alerts, alert, changed⟩ := result
  intro opened
  have standing : AlertsLinked { progress.store with alerts } :=
    fun row member key attached => Nat.lt_of_lt_of_le (linked row member key attached) opened.next_le
  dsimp only
  split
  · exact standing
  · intro row member key attached
    obtain ⟨source, inside, rfl⟩ := mem_modifyFinding.mp member
    split at attached
    · obtain rfl := Option.some.inj attached
      exact alerts.allocated alert ((opened.rows alert).mpr (Or.inr rfl))
    · exact standing source inside key attached

end Writing

/-! ## One record -/

section Records

variable {runtime : Runtime} {tenant now : Nat} {asset : Asset} {progress : Progress}
  {delivery : Delivery}

/-- What survives the updates that keep the alert and the severity of every
finding survives the handling of a known leak. -/
theorem keeps_known {P : Store → Prop} {finding : BreachFinding} {store : Store}
    (frame : ∀ store key change keeps,
      (∀ row, (change row).alert = row.alert ∧ (change row).severity = row.severity) →
      P store → P (store.modifyFinding key change keeps))
    (holds : P progress.store) {normalized : NormalizedFinding} {fault : Option Fault}
    (found : findExistingFinding progress.store tenant normalized = some (store, finding)) :
    P (observeExisting now { progress with store } fault finding).store := by
  have lookup : P store := by
    rcases findExistingFinding_cases found with ⟨rfl, _⟩ | ⟨_, _, _, _, rfl, _⟩
    · exact holds
    · exact frame _ _ _ _ (fun _ => ⟨rfl, rfl⟩) holds
  rw [observeExisting]
  split
  · exact lookup
  · exact frame _ _ _ _ (fun _ => ⟨rfl, rfl⟩) lookup

theorem alertsLinked_insert {store : Store} {build : Nat → BreachFinding}
    {ident_build : ∀ key, ident (build key) = key} (linked : AlertsLinked store)
    (unattached : (build store.findings.next).alert = none) :
    AlertsLinked (store.insertFinding build ident_build) := by
  intro finding member alert attached
  rcases mem_insertFinding.mp member with old | rfl
  · exact linked finding old alert attached
  · rw [unattached] at attached
    cases attached

theorem alertsLinked_ingestRecord (linked : AlertsLinked progress.store) :
    AlertsLinked (ingestRecord runtime tenant asset now progress delivery).store := by
  have course := ingestRecord_course runtime tenant now asset progress delivery
  generalize ingestRecord runtime tenant asset now progress delivery = later at course ⊢
  cases course with
  | passed idle => exact linked
  | unencrypted running real secret stopped => exact linked
  | unlooked running real stopped => exact linked
  | known looks found =>
      refine keeps_known ?_ linked found
      intro store key change keeps same linked
      exact alertsLinked_modify linked fun row => (same row).1
  | uninserted looks unknown stopped => exact linked
  | inserted secretEncrypted looks unknown inserts =>
      exact alertsLinked_raiseAlert (alertsLinked_insert linked rfl)

/-- A record keeps the severities tracked exactly when it meets the condition. -/
theorem severityTracked_ingestRecord_iff (linked : AlertsLinked progress.store)
    (tracked : SeverityTracked progress.store) :
    SeverityTracked (ingestRecord runtime tenant asset now progress delivery).store ↔
      NotMilder runtime tenant asset progress delivery := by
  have course := ingestRecord_course runtime tenant now asset progress delivery
  generalize ingestRecord runtime tenant asset now progress delivery = later at course ⊢
  cases course with
  | passed idle =>
      apply iff_of_true tracked
      rintro ⟨running, real, _⟩
      rw [real] at idle
      exact absurd running (idle.resolve_right (by rintro ⟨⟩))
  | unencrypted running real secret stopped =>
      apply iff_of_true tracked
      rintro ⟨_, _, encrypted, _⟩
      exact absurd stopped (encrypted.resolve_left secret)
  | unlooked running real stopped =>
      apply iff_of_true tracked
      rintro ⟨_, _, _, looked, _⟩
      exact absurd stopped looked
  | known looks found =>
      refine iff_of_true ?_ ?_
      · refine keeps_known ?_ tracked found
        intro store key change keeps same tracked
        exact (severityTracked_modify same).mpr tracked
      · rintro ⟨_, _, _, _, unknown, _⟩
        rw [found] at unknown
        cases unknown
  | uninserted looks unknown stopped =>
      apply iff_of_true tracked
      rintro ⟨_, _, _, _, _, inserts, _⟩
      exact absurd stopped inserts
  | inserted secretEncrypted looks unknown inserts =>
      have reaches : ReachesAlert runtime tenant progress delivery ↔
          delivery.fault ≠ some .alert := by
        constructor
        · rintro ⟨_, _, _, _, _, _, opens⟩
          exact opens
        · intro opens
          exact ⟨looks.running, looks.real, looks.encrypted, looks.looked, unknown, inserts, opens⟩
      rw [NotMilder, reaches]
      exact severityTracked_raiseAlert_iff (alertsLinked_insert linked rfl)
        (severityTracked_insert tracked rfl) (mem_insertFinding.mpr (Or.inr rfl)) rfl

end Records

/-! ## Batches and runs -/

section Runs

variable {runtime : Runtime} {store : Store} {event : Event}

theorem alertsLinked_step (linked : AlertsLinked store) :
    AlertsLinked (step runtime store event) := by
  cases event with
  | ingest tenant asset now report deliveries =>
      have loop : AlertsLinked (after (ingestRecord runtime tenant asset now)
          (Progress.start store report) deliveries).store :=
        (always_of_step (P := fun progress : Progress => AlertsLinked progress.store)
          (fun _ _ linked => alertsLinked_ingestRecord linked) linked deliveries).last
      rw [step, ingestRawFindings]
      split
      · exact loop
      · exact loop
  | setStatus tenant finding status user now =>
      rw [step]
      split
      · exact linked
      · rename_i found _
        have modified : AlertsLinked (store.modifyFinding found.id
            (BreachFinding.withStatus status user now) (fun _ => rfl)) :=
          alertsLinked_modify linked fun _ => rfl
        exact modified

/-- The severities stay tracked throughout a batch exactly when every record of
it meets the condition. -/
theorem trackedThroughout_iff (linked : AlertsLinked store) (tracked : SeverityTracked store) :
    TrackedThroughout runtime store event ↔ NothingMilder runtime store event := by
  cases event with
  | ingest tenant asset now report deliveries =>
      exact always_iff_eachStep (I := fun progress : Progress => AlertsLinked progress.store)
        (fun _ _ linked => alertsLinked_ingestRecord linked)
        (fun _ _ linked tracked => severityTracked_ingestRecord_iff linked tracked)
        linked tracked deliveries
  | setStatus tenant finding status user now =>
      refine iff_of_true ?_ trivial
      rw [TrackedThroughout, step]
      split
      · exact tracked
      · rename_i found _
        have same (row : BreachFinding) :
            (row.withStatus status user now).alert = row.alert ∧
              (row.withStatus status user now).severity = row.severity := ⟨rfl, rfl⟩
        have modified : SeverityTracked (store.modifyFinding found.id
            (BreachFinding.withStatus status user now) (fun _ => rfl)) :=
          (severityTracked_modify same).mpr tracked
        exact modified

theorem severityTracked_step (throughout : TrackedThroughout runtime store event) :
    SeverityTracked (step runtime store event) := by
  cases event with
  | ingest tenant asset now report deliveries =>
      have loop := throughout.last
      rw [step, ingestRawFindings]
      split
      · exact loop
      · exact loop
  | setStatus tenant finding status user now => exact throughout

/-- Over any run, the open breach alerts show the highest severity attached to
them throughout exactly when no record writes a milder one. -/
theorem severity_tracked_iff (runtime : Runtime) (start : Store) (linked : AlertsLinked start)
    (tracked : SeverityTracked start) (events : List Event) :
    EachStep (step runtime) (TrackedThroughout runtime) start events ↔
      EachStep (step runtime) (NothingMilder runtime) start events :=
  eachStep_iff_eachStep (I := AlertsLinked) (P := SeverityTracked)
    (fun _ _ => alertsLinked_step) (fun _ _ => trackedThroughout_iff)
    (fun _ _ _ _ => severityTracked_step) linked tracked events

/-! A stealer log, then a mention on the radar, in one batch of one asset. -/

def emptyStore : Store := ⟨Table.empty, Table.empty, Table.empty⟩

def stealerThenRadar : Event :=
  .ingest 1 acmeSite 30 ⟨[], [], []⟩
    [⟨⟨"stealer", [("usr", .str "jean")], false⟩, "token", none⟩,
      ⟨⟨"radar", [("data", .str "acme.fr")], false⟩, "token", none⟩]

theorem severity_tracked_iff_empty :
    EachStep (step plainRuntime) (TrackedThroughout plainRuntime) emptyStore [stealerThenRadar] ↔
      EachStep (step plainRuntime) (NothingMilder plainRuntime) emptyStore [stealerThenRadar] :=
  severity_tracked_iff plainRuntime emptyStore
    (fun finding member => absurd member (Table.not_mem_empty finding))
    (fun alert member => absurd member (Table.not_mem_empty alert)) _

/-- The radar mention lowers the alert that the stealer log opened. -/
theorem radar_lowers_alert :
    ¬ EachStep (step plainRuntime) (TrackedThroughout plainRuntime) emptyStore
        [stealerThenRadar] := by
  have lowered : ∃ alert ∈ (step plainRuntime emptyStore stealerThenRadar).alerts.rows,
      alert.alertType = .breachCompromise ∧ alert.isOpen = true ∧ alert.severity = .warning ∧
        ∃ finding ∈ (step plainRuntime emptyStore stealerThenRadar).findings.rows,
          finding.alert = some alert.id ∧ finding.severity = .critical := by
    decide +kernel
  rintro ⟨throughout, _⟩
  obtain ⟨alert, member, isBreach, isOpen, warning, finding, inside, attached, critical⟩ := lowered
  have greatest := severityTracked_step throughout alert member isBreach isOpen
  have above := greatest.2 ⟨finding, inside, attached, rfl⟩
  rw [warning, critical] at above
  revert above
  decide

end Runs

end RssiService.ThreatIntelligence
