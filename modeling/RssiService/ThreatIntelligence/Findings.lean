import Mathlib.Data.List.MinMax
import RssiService.Monitoring.Alerts
import RssiService.ThreatIntelligence.Normalizer

/-!
# The table of findings

A finding belongs to a tenant and is known by its deduplication hash.  The
table refuses a second row with the same tenant and hash.  A row of the old
format is found by its identity and its masked secret instead.
-/

namespace RssiService.ThreatIntelligence

open Foundation Python
open Monitoring (Asset Alert)

/-! ## Rows -/

inductive FindingStatus where
  | open
  | treated
  | ignored
  deriving DecidableEq, Repr

def FindingStatus.value : FindingStatus → String
  | .open => "open"
  | .treated => "treated"
  | .ignored => "ignored"

def FindingStatus.isClosed : FindingStatus → Bool
  | .open => false
  | .treated | .ignored => true

structure BreachFinding where
  id : Nat
  tenant : Nat
  asset : Nat
  sourceEndpoint : SourceEndpoint
  findingType : String
  severity : Severity
  status : FindingStatus
  identifierPlain : String
  identifierMasked : String
  secretMasked : String
  secretEncrypted : Option String
  hasSecret : Bool
  secretPurgedAt : Option Nat
  breachDate : Option Date
  detectedAt : Nat
  lastSeenAt : Option Nat
  rawData : Json
  dedupHash : String
  identityHash : String
  secretFingerprint : String
  alert : Option Nat
  treatedBy : Option Nat
  treatedAt : Option Nat

instance : Identified BreachFinding := ⟨BreachFinding.id⟩

@[simp] theorem ident_breachFinding (finding : BreachFinding) : ident finding = finding.id := rfl

/-- The cached synthesis of a tenant. -/
structure ExposureSynthesis where
  id : Nat
  tenant : Nat
  content : String
  generatedAt : Nat
  isStale : Bool
  deriving DecidableEq, Repr

instance : Identified ExposureSynthesis := ⟨ExposureSynthesis.id⟩

structure Store where
  findings : Table BreachFinding
  alerts : Table Alert
  syntheses : Table ExposureSynthesis

/-- The row carries the deduplication key of a tenant. -/
def BreachFinding.hasKey (tenant : Nat) (dedupHash : String) (finding : BreachFinding) : Bool :=
  finding.tenant = tenant && finding.dedupHash = dedupHash

/-- The row has the old format and the identity and masked secret of a record. -/
def BreachFinding.matchesLegacy (tenant : Nat) (normalized : NormalizedFinding)
    (finding : BreachFinding) : Bool :=
  finding.tenant = tenant && finding.identityHash = normalized.identityHash &&
    isLegacy finding.secretFingerprint && finding.secretMasked = normalized.secretMasked

/-! ## Queries and writes -/

/-- `filter(...).first()`: the selected row detected last. -/
def Store.first (store : Store) (selected : BreachFinding → Bool) : Option BreachFinding :=
  (store.findings.rows.filter selected).argmax BreachFinding.detectedAt

def getFinding (store : Store) (tenant finding : Nat) : Option BreachFinding :=
  (store.findings.find? finding).filter fun row => row.tenant = tenant

def Store.modifyFinding (store : Store) (key : Nat) (change : BreachFinding → BreachFinding)
    (keeps : ∀ row, ident (change row) = ident row) : Store :=
  { store with findings := store.findings.modify key change keeps }

def Store.insertFinding (store : Store) (build : Nat → BreachFinding)
    (ident_build : ∀ key, ident (build key) = key) : Store :=
  { store with findings := store.findings.create build ident_build }

/-- The row under the current key of a record. -/
def BreachFinding.rekey (normalized : NormalizedFinding) (finding : BreachFinding) :
    BreachFinding :=
  { finding with
    secretFingerprint := normalized.secretFingerprint
    dedupHash := normalized.dedupHash }

/-- Give the row of the old format that matches a record its current key. -/
def reconcileLegacyFinding (store : Store) (tenant : Nat) (normalized : NormalizedFinding) :
    Option (Store × BreachFinding) :=
  if normalized.identityHash = "" then none
  else
    (store.first (BreachFinding.matchesLegacy tenant normalized)).map fun legacy =>
      (store.modifyFinding legacy.id (BreachFinding.rekey normalized) (fun _ => rfl),
        legacy.rekey normalized)

/-- The finding a record is about, when it is known, and the table after the lookup. -/
def findExistingFinding (store : Store) (tenant : Nat) (normalized : NormalizedFinding) :
    Option (Store × BreachFinding) :=
  match store.first (BreachFinding.hasKey tenant normalized.dedupHash) with
  | some existing => some (store, existing)
  | none => reconcileLegacyFinding store tenant normalized

/-- The row a record is stored as. -/
def newFinding (tenant : Nat) (asset : Asset) (now : Nat) (normalized : NormalizedFinding)
    (secretEncrypted : Option String) (key : Nat) : BreachFinding :=
  { id := key
    tenant
    asset := asset.id
    sourceEndpoint := normalized.sourceEndpoint
    findingType := normalized.findingType
    severity := normalized.severity
    status := .open
    identifierPlain := normalized.identifierPlain
    identifierMasked := normalized.identifierMasked
    secretMasked := normalized.secretMasked
    secretEncrypted
    hasSecret := normalized.hasSecret
    secretPurgedAt := none
    breachDate := normalized.breachDate
    detectedAt := now
    lastSeenAt := some now
    rawData := normalized.rawData
    dedupHash := normalized.dedupHash
    identityHash := normalized.identityHash
    secretFingerprint := normalized.secretFingerprint
    alert := none
    treatedBy := none
    treatedAt := none }

/-- Insert a row; `none` when the uniqueness constraint refuses it. -/
def createFinding (store : Store) (tenant : Nat) (asset : Asset) (now : Nat)
    (normalized : NormalizedFinding) (secretEncrypted : Option String) :
    Option (Store × BreachFinding) :=
  if store.findings.rows.any (BreachFinding.hasKey tenant normalized.dedupHash) then none
  else
    let build := newFinding tenant asset now normalized secretEncrypted
    some (store.insertFinding build (fun _ => rfl), build store.findings.next)

def markSynthesisStale (store : Store) (tenant : Nat) : Store :=
  { store with
    syntheses := store.syntheses.updateWhere (fun row => row.tenant = tenant && !row.isStale)
      (fun row => { row with isStale := true }) (fun _ => rfl) }

/-- The status set by a user; only a treatment is attributed to its user. -/
def BreachFinding.withStatus (status : FindingStatus) (user : Option Nat) (now : Nat)
    (finding : BreachFinding) : BreachFinding :=
  { finding with
    status
    treatedAt := if status.isClosed then some now else finding.treatedAt
    treatedBy := if status = .treated then user else finding.treatedBy }

def setFindingStatus (store : Store) (finding : BreachFinding) (status : FindingStatus)
    (user : Option Nat) (now : Nat) : Store :=
  markSynthesisStale
    (store.modifyFinding finding.id (BreachFinding.withStatus status user now) (fun _ => rfl))
    finding.tenant

/-! ## What the queries find -/

section Queries

variable {store after : Store} {tenant : Nat} {normalized : NormalizedFinding}
  {finding : BreachFinding}

theorem mem_modifyFinding {key : Nat} {change : BreachFinding → BreachFinding}
    {keeps : ∀ row, ident (change row) = ident row} :
    finding ∈ (store.modifyFinding key change keeps).findings ↔
      ∃ row ∈ store.findings, (if row.id = key then change row else row) = finding := by
  rw [Store.modifyFinding, Table.mem_modify]
  rfl

theorem mem_modifyFinding_of_mem (member : finding ∈ store.findings)
    {change : BreachFinding → BreachFinding} {keeps : ∀ row, ident (change row) = ident row}
    {other : BreachFinding} :
    other ∈ (store.modifyFinding finding.id change keeps).findings ↔
      other = change finding ∨ other ∈ store.findings ∧ other.id ≠ finding.id :=
  @Table.mem_modify_of_mem _ _ store.findings finding member change keeps other

theorem mem_insertFinding {build : Nat → BreachFinding}
    {ident_build : ∀ key, ident (build key) = key} :
    finding ∈ (store.insertFinding build ident_build).findings ↔
      finding ∈ store.findings ∨ finding = build store.findings.next := by
  rw [Store.insertFinding, Table.mem_create]

theorem mem_of_first {selected : BreachFinding → Bool}
    (found : store.first selected = some finding) :
    finding ∈ store.findings ∧ selected finding = true :=
  List.mem_filter.mp (List.argmax_mem found)

theorem first_eq_none {selected : BreachFinding → Bool} :
    store.first selected = none ↔ ∀ row ∈ store.findings, selected row = false := by
  simp [Store.first, List.argmax_eq_none, List.filter_eq_nil_iff, Table.mem_def]

theorem getFinding_eq_some {key : Nat} :
    getFinding store tenant key = some finding ↔
      finding ∈ store.findings ∧ finding.id = key ∧ finding.tenant = tenant := by
  simp [getFinding, Option.filter_eq_some_iff, Table.find?_eq_some_iff, and_assoc]

theorem hasKey_iff {hash : String} :
    finding.hasKey tenant hash = true ↔ finding.tenant = tenant ∧ finding.dedupHash = hash := by
  simp [BreachFinding.hasKey]

/-- A lookup finds the row of the key and touches nothing, or it finds a row of
the old format and gives it a key that no row of the tenant had. -/
theorem findExistingFinding_cases
    (found : findExistingFinding store tenant normalized = some (after, finding)) :
    (after = store ∧ finding ∈ store.findings ∧ finding.hasKey tenant normalized.dedupHash = true) ∨
      ∃ legacy ∈ store.findings, legacy.matchesLegacy tenant normalized = true ∧
        (∀ row ∈ store.findings, row.hasKey tenant normalized.dedupHash = false) ∧
        after = store.modifyFinding legacy.id (BreachFinding.rekey normalized) (fun _ => rfl) ∧
        finding = legacy.rekey normalized := by
  rw [findExistingFinding] at found
  cases lookup : store.first (BreachFinding.hasKey tenant normalized.dedupHash) with
  | some existing =>
      rw [lookup] at found
      obtain ⟨rfl, rfl⟩ := Prod.mk.inj (Option.some.inj found)
      exact Or.inl ⟨rfl, mem_of_first lookup⟩
  | none =>
      rw [lookup] at found
      simp only [reconcileLegacyFinding] at found
      split at found
      · cases found
      · obtain ⟨legacy, isFirst, same⟩ := Option.map_eq_some_iff.mp found
        obtain ⟨sameStore, sameFinding⟩ := Prod.mk.inj same
        obtain ⟨member, matching⟩ := mem_of_first isFirst
        exact Or.inr ⟨legacy, member, matching, first_eq_none.mp lookup, sameStore.symm,
          sameFinding.symm⟩

/-- A failed lookup leaves the key free. -/
theorem key_free_of_not_found (absent : findExistingFinding store tenant normalized = none) :
    ∀ row ∈ store.findings, row.hasKey tenant normalized.dedupHash = false := by
  rw [findExistingFinding] at absent
  cases lookup : store.first (BreachFinding.hasKey tenant normalized.dedupHash) with
  | some existing =>
      rw [lookup] at absent
      cases absent
  | none => exact first_eq_none.mp lookup

/-- The insertion succeeds exactly where the key is free. -/
theorem createFinding_eq_some {asset : Asset} {now : Nat} {secretEncrypted : Option String} :
    createFinding store tenant asset now normalized secretEncrypted = some (after, finding) ↔
      (∀ row ∈ store.findings, row.hasKey tenant normalized.dedupHash = false) ∧
        finding = newFinding tenant asset now normalized secretEncrypted store.findings.next ∧
        after = store.insertFinding (newFinding tenant asset now normalized secretEncrypted)
          (fun _ => rfl) := by
  rw [createFinding]
  split
  · rename_i taken
    obtain ⟨row, member, hasKey⟩ := List.any_eq_true.mp taken
    apply iff_of_false (by rintro ⟨⟩)
    rintro ⟨free, _⟩
    rw [free row member] at hasKey
    cases hasKey
  · rename_i untaken
    have free : ∀ row ∈ store.findings, row.hasKey tenant normalized.dedupHash = false := by
      simpa [Table.mem_def] using untaken
    constructor
    · intro created
      obtain ⟨rfl, rfl⟩ := Prod.mk.inj (Option.some.inj created)
      exact ⟨free, rfl, rfl⟩
    · rintro ⟨_, rfl, rfl⟩
      rfl

end Queries

end RssiService.ThreatIntelligence
