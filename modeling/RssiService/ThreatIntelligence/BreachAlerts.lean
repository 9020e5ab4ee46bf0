import RssiService.ThreatIntelligence.Ingestion

/-!
# Breach alerts and open findings

A new finding opens the breach alert of its asset.  Nothing closes that alert:
treating or dismissing the findings of the asset leaves it open, and reopening
one of them does not open it again.
-/

namespace RssiService.ThreatIntelligence

open Foundation Foundation.Run Python
open Monitoring (Asset HasOpen openOrUpdateAlert hasOpen_openOrUpdateAlert)

/-- Some finding of the asset is open. -/
def HasOpenFinding (store : Store) (asset : Nat) : Prop :=
  ∃ finding ∈ store.findings, finding.asset = asset ∧ finding.status = .open

/-- The breach alert of an asset is open exactly while one of its findings is. -/
def AlertsInStep (store : Store) : Prop :=
  ∀ asset, HasOpen store.alerts asset .breachCompromise ↔ HasOpenFinding store asset

/-- The findings and the alerts are in step after every record of a batch. -/
def InStepThroughout (runtime : Runtime) (store : Store) : Event → Prop
  | .ingest tenant asset now report deliveries =>
      Always (ingestRecord runtime tenant asset now) (fun progress => AlertsInStep progress.store)
        (Progress.start store report) deliveries
  | .setStatus tenant finding status user now =>
      AlertsInStep (step runtime store (.setStatus tenant finding status user now))

/-! ## The condition -/

/-- The record inserts its leak and fails before it opens the alert. -/
def FailsAtAlert (runtime : Runtime) (tenant : Nat) (progress : Progress) (delivery : Delivery) :
    Prop :=
  LooksUp runtime progress delivery ∧
    findExistingFinding progress.store tenant
      (normalizeFinding runtime delivery.raw.endpoint delivery.raw.payload) = none ∧
    delivery.fault = some .alert

/-- A record that fails at the alert finds it open. -/
def AlertStands (runtime : Runtime) (tenant : Nat) (asset : Asset) (progress : Progress)
    (delivery : Delivery) : Prop :=
  FailsAtAlert runtime tenant progress delivery →
    HasOpen progress.store.alerts asset.id .breachCompromise

/-- Another finding of the same asset is open. -/
def OthersOpen (store : Store) (finding : BreachFinding) : Prop :=
  ∃ other ∈ store.findings, other.asset = finding.asset ∧ other.status = .open ∧
    other.id ≠ finding.id

/-- No record leaves its leak without an open alert, and no change of status
closes the last open finding of an asset or reopens its first one. -/
def MovesNoAlert (runtime : Runtime) (store : Store) : Event → Prop
  | .ingest tenant asset now report deliveries =>
      EachStep (ingestRecord runtime tenant asset now) (AlertStands runtime tenant asset)
        (Progress.start store report) deliveries
  | .setStatus tenant finding status _ _ =>
      ∀ found, getFinding store tenant finding = some found →
        OthersOpen store found ∨ (found.status = .open ↔ status = .open)

section Frames

variable {store : Store} {asset : Nat}

theorem hasOpenFinding_modify {key : Nat} {change : BreachFinding → BreachFinding}
    {keeps : ∀ row, ident (change row) = ident row}
    (same : ∀ row, (change row).asset = row.asset ∧ (change row).status = row.status) :
    HasOpenFinding (store.modifyFinding key change keeps) asset ↔ HasOpenFinding store asset := by
  have sameRow (row : BreachFinding) :
      (if row.id = key then change row else row).asset = row.asset ∧
        (if row.id = key then change row else row).status = row.status := by
    split
    · exact same row
    · exact ⟨rfl, rfl⟩
  simp only [HasOpenFinding, mem_modifyFinding]
  constructor
  · rintro ⟨_, ⟨row, inside, rfl⟩, mine, isOpen⟩
    rw [(sameRow row).1] at mine
    rw [(sameRow row).2] at isOpen
    exact ⟨row, inside, mine, isOpen⟩
  · rintro ⟨row, inside, mine, isOpen⟩
    exact ⟨_, ⟨row, inside, rfl⟩, (sameRow row).1.trans mine, (sameRow row).2.trans isOpen⟩

theorem AlertsInStep.modify (inStep : AlertsInStep store) {key : Nat}
    {change : BreachFinding → BreachFinding}
    {keeps : ∀ row, ident (change row) = ident row}
    (same : ∀ row, (change row).asset = row.asset ∧ (change row).status = row.status) :
    AlertsInStep (store.modifyFinding key change keeps) := by
  intro asset
  rw [hasOpenFinding_modify same]
  exact inStep asset

/-- The finding and the others of its asset. -/
theorem hasOpenFinding_iff {finding : BreachFinding} (member : finding ∈ store.findings) :
    HasOpenFinding store finding.asset ↔ finding.status = .open ∨ OthersOpen store finding := by
  constructor
  · rintro ⟨row, inside, mine, isOpen⟩
    rcases eq_or_ne row.id finding.id with same | apart
    · rw [Table.ident_injective inside member same] at isOpen
      exact Or.inl isOpen
    · exact Or.inr ⟨row, inside, mine, isOpen, apart⟩
  · rintro (isOpen | ⟨row, inside, mine, isOpen, _⟩)
    · exact ⟨finding, member, rfl, isOpen⟩
    · exact ⟨row, inside, mine, isOpen⟩

/-- The open findings of an asset once the status of a finding is set. -/
theorem hasOpenFinding_withStatus {finding : BreachFinding} (member : finding ∈ store.findings)
    {status : FindingStatus} {user : Option Nat} {now : Nat}
    (keeps : ∀ row, ident (BreachFinding.withStatus status user now row) = ident row) :
    HasOpenFinding (store.modifyFinding finding.id (.withStatus status user now) keeps) asset ↔
      if finding.asset = asset then status = .open ∨ OthersOpen store finding
      else HasOpenFinding store asset := by
  simp only [HasOpenFinding, mem_modifyFinding_of_mem member]
  split
  · rename_i same
    subst same
    constructor
    · rintro ⟨row, rfl | ⟨inside, apart⟩, mine, isOpen⟩
      · exact Or.inl isOpen
      · exact Or.inr ⟨row, inside, mine, isOpen, apart⟩
    · rintro (isOpen | ⟨row, inside, mine, isOpen, apart⟩)
      · exact ⟨_, Or.inl rfl, rfl, isOpen⟩
      · exact ⟨row, Or.inr ⟨inside, apart⟩, mine, isOpen⟩
  · rename_i elsewhere
    constructor
    · rintro ⟨row, rfl | ⟨inside, _⟩, mine, isOpen⟩
      · exact absurd mine elsewhere
      · exact ⟨row, inside, mine, isOpen⟩
    · rintro ⟨row, inside, mine, isOpen⟩
      refine ⟨row, Or.inr ⟨inside, fun same => elsewhere ?_⟩, mine, isOpen⟩
      rw [← mine, Table.ident_injective inside member same]

end Frames

section Records

variable {runtime : Runtime} {tenant now : Nat} {asset : Asset} {progress : Progress}
  {delivery : Delivery}

theorem inStep_observeExisting {store : Store} {existing : BreachFinding}
    {normalized : NormalizedFinding} {fault : Option Fault} (inStep : AlertsInStep progress.store)
    (found : findExistingFinding progress.store tenant normalized = some (store, existing)) :
    AlertsInStep (observeExisting now { progress with store } fault existing).store := by
  have looked : AlertsInStep store := by
    rcases findExistingFinding_cases found with ⟨rfl, _⟩ | ⟨_, _, _, _, rfl, _⟩
    · exact inStep
    · exact inStep.modify fun _ => ⟨rfl, rfl⟩
  rw [observeExisting]
  split
  · exact looked
  · have observed : AlertsInStep (store.modifyFinding existing.id
        (fun row => { row with lastSeenAt := some now }) fun _ => rfl) :=
      looked.modify fun _ => ⟨rfl, rfl⟩
    exact observed

theorem hasOpenFinding_insert {normalized : NormalizedFinding} {secretEncrypted : Option String}
    {other : Nat} :
    HasOpenFinding (progress.insert tenant asset now normalized secretEncrypted).store other ↔
      HasOpenFinding progress.store other ∨ asset.id = other := by
  simp only [HasOpenFinding, Progress.insert, mem_insertFinding]
  constructor
  · rintro ⟨row, inside | rfl, mine, isOpen⟩
    · exact Or.inl ⟨row, inside, mine, isOpen⟩
    · exact Or.inr mine
  · rintro (⟨row, inside, mine, isOpen⟩ | same)
    · exact ⟨row, Or.inl inside, mine, isOpen⟩
    · exact ⟨_, Or.inr rfl, same, rfl⟩

/-- A new leak keeps the alerts in step unless it fails before its alert, and
then exactly where that alert is open already. -/
theorem inStep_raiseAlert_iff {normalized : NormalizedFinding} {secretEncrypted : Option String}
    {fault : Option Fault} {finding : BreachFinding} (inStep : AlertsInStep progress.store) :
    AlertsInStep (raiseAlert asset now (progress.insert tenant asset now normalized secretEncrypted)
        fault finding).store ↔
      (fault = some .alert → HasOpen progress.store.alerts asset.id .breachCompromise) := by
  rw [raiseAlert]
  split
  · rename_i fails
    rw [forall_prop_of_true fails]
    have inserted : AlertsInStep ((progress.insert tenant asset now normalized
          secretEncrypted).interrupt .alert).store ↔
        ∀ other, HasOpen progress.store.alerts other .breachCompromise ↔
          HasOpenFinding progress.store other ∨ asset.id = other :=
      forall_congr' fun _ => iff_congr Iff.rfl hasOpenFinding_insert
    rw [inserted]
    constructor
    · intro all
      exact (all asset.id).mpr (Or.inr rfl)
    · intro stands other
      rw [inStep other]
      refine (or_iff_left_of_imp ?_).symm
      rintro rfl
      exact (inStep _).mp stands
  · rename_i opens
    refine iff_of_true ?_ fun fails => absurd fails opens
    have opened : AlertsInStep {
        (progress.insert tenant asset now normalized secretEncrypted).store with
        alerts := (openOrUpdateAlert now progress.store.alerts asset .breachCompromise
          (findingSeverityToAlertSeverity finding.severity) finding.alertDetails).1 } := by
      intro other
      refine hasOpen_openOrUpdateAlert.trans ?_
      rw [inStep other]
      refine Iff.trans ?_ hasOpenFinding_insert.symm
      exact or_congr_right (and_iff_left rfl)
    dsimp only
    split
    · exact opened
    · exact AlertsInStep.modify opened fun _ => ⟨rfl, rfl⟩

/-- What one record keeps. -/
theorem inStep_ingestRecord_iff (inStep : AlertsInStep progress.store) :
    AlertsInStep (ingestRecord runtime tenant asset now progress delivery).store ↔
      AlertStands runtime tenant asset progress delivery := by
  have course := ingestRecord_course runtime tenant now asset progress delivery
  generalize ingestRecord runtime tenant asset now progress delivery = later at course ⊢
  cases course with
  | passed idle =>
      refine iff_of_true inStep fun fails => ?_
      rcases idle with failed | isTest
      · exact absurd fails.1.running failed
      · rw [fails.1.real] at isTest
        cases isTest
  | unencrypted running real secret stopped =>
      refine iff_of_true inStep fun fails => ?_
      cases stopped.symm.trans fails.2.2
  | unlooked running real stopped =>
      refine iff_of_true inStep fun fails => ?_
      cases stopped.symm.trans fails.2.2
  | known looks found =>
      refine iff_of_true (inStep_observeExisting inStep found) fun fails => ?_
      cases found.symm.trans fails.2.1
  | uninserted looks unknown stopped =>
      refine iff_of_true inStep fun fails => ?_
      cases stopped.symm.trans fails.2.2
  | inserted secretEncrypted looks unknown inserts =>
      rw [inStep_raiseAlert_iff inStep]
      constructor
      · intro stands fails
        exact stands fails.2.2
      · intro stands fails
        exact stands ⟨looks, unknown, fails⟩

end Records

/-! ## Properties of the store that ingestion keeps -/

/-- A property that the four writes of an ingestion keep. -/
structure KeptByIngestion (tenant now : Nat) (asset : Asset) (J : Store → Prop) : Prop where
  modify : ∀ (store : Store) key change (keeps : ∀ row, ident (change row) = ident row),
    (∀ row : BreachFinding, (change row).asset = row.asset ∧ (change row).tenant = row.tenant) →
      J store → J (store.modifyFinding key change keeps)
  insert : ∀ store normalized secretEncrypted, J store →
    J (store.insertFinding (newFinding tenant asset now normalized secretEncrypted) id_newFinding)
  alert : ∀ (store : Store) severity details, J store →
    J { store with
      alerts := (openOrUpdateAlert now store.alerts asset .breachCompromise severity details).1 }
  stale : ∀ store, J store → J (markSynthesisStale store tenant)

section Kept

variable {runtime : Runtime} {tenant now : Nat} {asset : Asset} {J : Store → Prop}

theorem KeptByIngestion.record (kept : KeptByIngestion tenant now asset J) {progress : Progress}
    {delivery : Delivery} (holds : J progress.store) :
    J (ingestRecord runtime tenant asset now progress delivery).store := by
  have course := ingestRecord_course runtime tenant now asset progress delivery
  generalize ingestRecord runtime tenant asset now progress delivery = later at course ⊢
  cases course with
  | passed idle => exact holds
  | unencrypted running real secret stopped => exact holds
  | unlooked running real stopped => exact holds
  | uninserted looks unknown stopped => exact holds
  | known looks found =>
      rename_i store existing
      have looked : J store := by
        rcases findExistingFinding_cases found with ⟨rfl, _⟩ | ⟨_, _, _, _, rfl, _⟩
        · exact holds
        · exact kept.modify _ _ _ _ (fun _ => ⟨rfl, rfl⟩) holds
      rw [observeExisting]
      split
      · exact looked
      · refine kept.modify _ _ _ _ ?_ looked
        exact fun _ => ⟨rfl, rfl⟩
  | inserted secretEncrypted looks unknown inserts =>
      have inserted := kept.insert progress.store
        (normalizeFinding runtime delivery.raw.endpoint delivery.raw.payload) secretEncrypted holds
      rw [raiseAlert]
      split
      · exact inserted
      · dsimp only
        split
        · exact kept.alert _ _ _ inserted
        · refine kept.modify _ _ _ _ ?_ (kept.alert _ _ _ inserted)
          exact fun _ => ⟨rfl, rfl⟩

theorem KeptByIngestion.batch (kept : KeptByIngestion tenant now asset J)
    {report : IngestionReport} {deliveries : List Delivery} {store : Store} (holds : J store) :
    J (ingestRawFindings runtime tenant asset now report deliveries store).store := by
  have loop : J (after (ingestRecord runtime tenant asset now) (Progress.start store report)
      deliveries).store :=
    (always_of_step (P := fun progress : Progress => J progress.store)
      (fun _ _ => kept.record) holds deliveries).last
  rw [ingestRawFindings]
  split
  · exact kept.stale _ loop
  · exact loop

end Kept

section Steps

variable {runtime : Runtime} {store : Store} {event : Event}

theorem inStep_setStatus_iff {tenant finding now : Nat} {status : FindingStatus}
    {user : Option Nat} (inStep : AlertsInStep store) :
    AlertsInStep (step runtime store (.setStatus tenant finding status user now)) ↔
      MovesNoAlert runtime store (.setStatus tenant finding status user now) := by
  simp only [step, MovesNoAlert]
  cases found : getFinding store tenant finding with
  | none => exact iff_of_true inStep (by simp)
  | some row =>
      obtain ⟨member, _⟩ := getFinding_eq_some.mp found
      have after : AlertsInStep (setFindingStatus store row status user now) ↔
          ∀ asset, HasOpen store.alerts asset .breachCompromise ↔
            if row.asset = asset then status = .open ∨ OthersOpen store row
            else HasOpenFinding store asset :=
        forall_congr' fun _ => iff_congr Iff.rfl
          (hasOpenFinding_withStatus member fun _ => rfl)
      have here := (inStep row.asset).trans (hasOpenFinding_iff member)
      dsimp only
      rw [after]
      constructor
      · rintro all _ ⟨⟩
        have now := all row.asset
        rw [if_pos rfl, here] at now
        by_cases others : OthersOpen store row
        · exact Or.inl others
        · simpa [others] using now
      · intro steady asset
        split
        · rename_i same
          subst same
          rw [here]
          rcases steady row rfl with others | same
          · simp [others]
          · rw [same]
        · exact inStep asset

/-- A batch or a change of status keeps the alerts in step throughout exactly
where it moves no alert. -/
theorem inStepThroughout_iff (inStep : AlertsInStep store) :
    InStepThroughout runtime store event ↔ MovesNoAlert runtime store event := by
  cases event with
  | ingest tenant asset now report deliveries =>
      exact always_iff_eachStep_of_start (P := fun progress : Progress => AlertsInStep progress.store)
        (fun _ _ here => inStep_ingestRecord_iff here) inStep deliveries
  | setStatus tenant finding status user now => exact inStep_setStatus_iff inStep

theorem inStep_step (throughout : InStepThroughout runtime store event) :
    AlertsInStep (step runtime store event) := by
  cases event with
  | ingest tenant asset now report deliveries =>
      have loop := throughout.last
      rw [step, ingestRawFindings]
      split
      · exact loop
      · exact loop
  | setStatus tenant finding status user now => exact throughout

end Steps

end RssiService.ThreatIntelligence
