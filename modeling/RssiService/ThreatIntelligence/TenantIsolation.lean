import RssiService.ThreatIntelligence.Ingestion

/-!
# Tenants apart

What is ingested for a tenant, or decided by its users, changes no row of another tenant.
-/

namespace RssiService.ThreatIntelligence

open Foundation Foundation.Run
open Monitoring (Asset Alert AlertSeverity AlertDetails openOrUpdateAlert)

/-- The alerts are of the owners of their assets, and what the store has of the tenants other than
`tenant` is what the base has. -/
structure Confined (owner : Nat → Nat) (tenant : Nat) (base store : Store) : Prop where
  owned : ∀ alert ∈ store.alerts, alert.tenant = owner alert.asset
  findings : ∀ row : BreachFinding, row.tenant ≠ tenant →
    (row ∈ store.findings ↔ row ∈ base.findings)
  alerts : ∀ row : Alert, row.tenant ≠ tenant → (row ∈ store.alerts ↔ row ∈ base.alerts)
  syntheses : ∀ row : ExposureSynthesis, row.tenant ≠ tenant →
    (row ∈ store.syntheses ↔ row ∈ base.syntheses)

def Event.tenant : Event → Nat
  | .ingest tenant .. | .setStatus tenant .. => tenant

/-- What is ingested was found for an asset of the tenant. -/
def Event.OfOwner (owner : Nat → Nat) : Event → Prop
  | .ingest tenant asset .. => asset.tenant = tenant ∧ owner asset.id = tenant
  | .setStatus .. => True

section Isolation

variable {owner : Nat → Nat} {runtime : Runtime} {tenant now : Nat} {asset : Asset}
  {base store : Store} {progress : Progress} {finding : BreachFinding}

theorem Confined.modify (confined : Confined owner tenant base store)
    (member : finding ∈ store.findings) (mine : finding.tenant = tenant)
    {change : BreachFinding → BreachFinding} {keeps : ∀ row, ident (change row) = ident row}
    (same : (change finding).tenant = finding.tenant) :
    Confined owner tenant base (store.modifyFinding finding.id change keeps) :=
  { confined with
    findings := fun row other =>
      (Table.mem_modify_of_key_ne keeps member same (ne_of_ne_of_eq other mine.symm)).trans
        (confined.findings row other) }

theorem Confined.openAlert (confined : Confined owner tenant base store)
    (mine : asset.tenant = tenant) (owns : owner asset.id = tenant) {severity : AlertSeverity}
    {details : AlertDetails} :
    Confined owner tenant base { store with
      alerts := (openOrUpdateAlert now store.alerts asset .breachCompromise severity details).1 } := by
  rw [openOrUpdateAlert]
  split
  · refine { confined with owned := fun alert inside => ?_, alerts := fun row other => ?_ }
    · rcases Table.mem_create.mp inside with old | rfl
      · exact confined.owned alert old
      · exact mine.trans owns.symm
    · rw [← confined.alerts row other, Table.mem_create]
      exact or_iff_left fun new => other (new ▸ mine)
  · rename_i standing found
    obtain ⟨member, isOpen⟩ := Monitoring.mem_of_findOpen found
    split
    · have theirs : standing.tenant = tenant := by
        rw [confined.owned standing member, ← owns, (Monitoring.openFor_iff.mp isOpen).1]
      refine { confined with owned := fun alert inside => ?_, alerts := fun row other => ?_ }
      · rw [Table.mem_modify] at inside
        obtain ⟨source, old, rfl⟩ := inside
        split <;> exact confined.owned source old
      · rw [← confined.alerts row other]
        exact Table.mem_modify_of_key_ne (by intro _; rfl) member
          (show Alert.tenant _ = standing.tenant from rfl) (ne_of_ne_of_eq other theirs.symm)
    · exact confined

theorem Confined.markStale (confined : Confined owner tenant base store) :
    Confined owner tenant base (markSynthesisStale store tenant) :=
  { confined with
    syntheses := fun row other => by
      rw [← confined.syntheses row other, markSynthesisStale, Table.mem_updateWhere]
      constructor
      · rintro ⟨source, inside, rfl⟩
        split at other
        · rename_i selected
          exact absurd (of_decide_eq_true (Bool.and_eq_true_iff.mp selected).1) other
        · rename_i unselected
          rwa [if_neg unselected]
      · exact fun old => ⟨row, old, if_neg (by simp [other])⟩ }

theorem Confined.ingestRecord (confined : Confined owner tenant base progress.store)
    (mine : asset.tenant = tenant) (owns : owner asset.id = tenant) (delivery : Delivery) :
    Confined owner tenant base (ingestRecord runtime tenant asset now progress delivery).store := by
  have course := ingestRecord_course runtime tenant now asset progress delivery
  generalize ThreatIntelligence.ingestRecord runtime tenant asset now progress delivery = later
    at course ⊢
  cases course with
  | passed | unencrypted | unlooked | uninserted => exact confined
  | known looks found =>
      rw [observeExisting]
      rcases findExistingFinding_cases found with ⟨rfl, member, key⟩ |
        ⟨legacy, member, matching, _, rfl, rfl⟩
      · split
        · exact confined
        · exact confined.modify member (hasKey_iff.mp key).1 rfl
      · simp only [BreachFinding.matchesLegacy, Bool.and_eq_true, decide_eq_true_eq] at matching
        split
        · exact confined.modify member matching.1.1.1 rfl
        · exact (confined.modify member matching.1.1.1 rfl).modify
            ((mem_modifyFinding_of_mem member).mpr (.inl rfl)) matching.1.1.1 rfl
  | inserted secretEncrypted looks unknown inserts =>
      have inserted (normalized : NormalizedFinding) : Confined owner tenant base
          (progress.insert tenant asset now normalized secretEncrypted).store :=
        { confined with
          findings := fun row other => by
            rw [← confined.findings row other, Progress.insert, mem_insertFinding]
            exact or_iff_left fun new => other (new ▸ rfl) }
      rw [raiseAlert]
      split
      · exact inserted _
      · dsimp only
        split
        · exact (inserted _).openAlert mine owns
        · exact ((inserted _).openAlert mine owns).modify
            (List.mem_append_right _ (List.mem_singleton_self _)) rfl rfl

theorem confined_step (runtime : Runtime)
    (owned : ∀ alert ∈ store.alerts, alert.tenant = owner alert.asset)
    {event : Event} (ofOwner : event.OfOwner owner) :
    Confined owner event.tenant store (step runtime store event) := by
  have start (tenant : Nat) : Confined owner tenant store store :=
    ⟨owned, fun _ _ => .rfl, fun _ _ => .rfl, fun _ _ => .rfl⟩
  cases event with
  | ingest tenant asset now report deliveries =>
      have loop : Always (ingestRecord runtime tenant asset now)
          (Confined owner tenant store ∘ Progress.store) (Progress.start store report) deliveries :=
        always_of_step
          (fun _ delivery confined => Confined.ingestRecord confined ofOwner.1 ofOwner.2 delivery)
          (start tenant) deliveries
      rw [step, ingestRawFindings]
      split
      · exact Confined.markStale loop.last
      · exact loop.last
  | setStatus tenant key status user now =>
      rw [step]
      split
      · exact start tenant
      · rename_i found
        obtain ⟨member, _, rfl⟩ := getFinding_eq_some.mp found
        exact ((start _).modify member rfl rfl).markStale

end Isolation

/-- In every run, however the ingestions and the decisions of the tenants follow one another, each
step leaves the findings, the alerts and the syntheses of every other tenant as they are. -/
theorem tenants_isolated (runtime : Runtime) (owner : Nat → Nat) {start : Store}
    (owned : ∀ alert ∈ start.alerts, alert.tenant = owner alert.asset) {events : List Event}
    (ofOwner : ∀ event ∈ events, event.OfOwner owner) :
    EachStep (step runtime)
      (fun store event => Confined owner event.tenant store (step runtime store event))
      start events := by
  induction events generalizing start with
  | nil => trivial
  | cons event rest ih =>
      rw [List.forall_mem_cons] at ofOwner
      have confined := confined_step runtime owned ofOwner.1
      exact ⟨confined, ih confined.owned ofOwner.2⟩

theorem tenants_isolated_known_leak :
    EachStep (step plainRuntime)
      (fun store event => Confined id event.tenant store (step plainRuntime store event))
      treatedLegacyStore
      [.ingest 1 acmeSite 30 ⟨[], [], []⟩ [⟨leakedCredential, "token", none⟩]] :=
  tenants_isolated plainRuntime id (fun _ inside => absurd inside List.not_mem_nil)
    (List.forall_mem_singleton.mpr ⟨rfl, rfl⟩)

end RssiService.ThreatIntelligence
