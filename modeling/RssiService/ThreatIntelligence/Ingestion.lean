import RssiService.Foundation.Run
import RssiService.ThreatIntelligence.Findings

/-!
# Ingestion

A batch is handled record by record.  A known leak only has its last observation
moved; a new one is inserted, and opens or updates the breach alert of its
asset.  An exception stops the batch and keeps what was written before it.
-/

namespace RssiService.ThreatIntelligence

open Foundation Foundation.Run Python
open Monitoring (Asset AlertSeverity AlertDetails openOrUpdateAlert)

/-! ## Records and progress -/

/-- Where the handling of a record raises: before the write it names. -/
inductive Fault where
  | encryption
  | lookup
  | observation
  | insertion
  | alert
  | attachment
  deriving DecidableEq, Repr

inductive IngestionError where
  | interrupted (fault : Fault)
  | integrity
  deriving DecidableEq, Repr

/-- A record to ingest, the token its secret is encrypted as, and the exception
its handling meets, if any. -/
structure Delivery where
  raw : RawFinding
  token : String
  fault : Option Fault

/-- What an ingestion did, beyond what it created. -/
structure IngestionReport where
  created : List Nat
  seenAgain : List Nat
  seenAgainTreated : List Nat
  deriving DecidableEq, Repr

def IngestionReport.noteCreated (report : IngestionReport) (finding : BreachFinding) :
    IngestionReport :=
  { report with created := report.created ++ [finding.id] }

def IngestionReport.noteSeenAgain (report : IngestionReport) (finding : BreachFinding) :
    IngestionReport :=
  { report with
    seenAgain := report.seenAgain ++ [finding.id]
    seenAgainTreated :=
      if finding.status.isClosed then report.seenAgainTreated ++ [finding.id]
      else report.seenAgainTreated }

/-- The state of the loop over a batch. -/
structure Progress where
  store : Store
  created : List Nat
  report : IngestionReport
  failure : Option IngestionError

def Progress.start (store : Store) (report : IngestionReport) : Progress :=
  { store, created := [], report, failure := none }

def Progress.interrupt (progress : Progress) (fault : Fault) : Progress :=
  { progress with failure := some (.interrupted fault) }

def Progress.seenAgain (progress : Progress) (existing : BreachFinding) : Progress :=
  { progress with report := progress.report.noteSeenAgain existing }

/-! ## One record -/

def findingSeverityToAlertSeverity : Severity → AlertSeverity
  | .critical | .high => .critical
  | .attention => .warning

def BreachFinding.alertDetails (finding : BreachFinding) : AlertDetails :=
  .breachCompromise finding.id finding.findingType finding.sourceEndpoint.value
    finding.severity.value

/-- A known leak: its last observation moves, and nothing else. -/
def observeExisting (now : Nat) (progress : Progress) (fault : Option Fault)
    (existing : BreachFinding) : Progress :=
  if fault = some .observation then progress.interrupt .observation
  else
    let store := progress.store.modifyFinding existing.id
      (fun row => { row with lastSeenAt := some now }) (fun _ => rfl)
    { progress with store }.seenAgain existing

/-- A new leak opens or updates the alert of its asset, and is attached to it. -/
def raiseAlert (asset : Asset) (now : Nat) (progress : Progress) (fault : Option Fault)
    (finding : BreachFinding) : Progress :=
  if fault = some .alert then progress.interrupt .alert
  else
    let (alerts, alert, _) := openOrUpdateAlert now progress.store.alerts asset .breachCompromise
      (findingSeverityToAlertSeverity finding.severity) finding.alertDetails
    let progress := { progress with store := { progress.store with alerts } }
    if fault = some .attachment then progress.interrupt .attachment
    else
      { progress with
        store := progress.store.modifyFinding finding.id
          (fun row => { row with alert := some alert.id }) (fun _ => rfl) }

/-- An unknown leak is inserted; a refused insertion reads the row that stands
in its place. -/
def insertNew (tenant : Nat) (asset : Asset) (now : Nat) (progress : Progress)
    (delivery : Delivery) (normalized : NormalizedFinding) : Progress :=
  if delivery.fault = some .insertion then progress.interrupt .insertion
  else
    let secretEncrypted := if normalized.secretPlain = "" then none else some delivery.token
    match createFinding progress.store tenant asset now normalized secretEncrypted with
    | none =>
        match progress.store.first (BreachFinding.hasKey tenant normalized.dedupHash) with
        | none => { progress with failure := some .integrity }
        | some existing => progress.seenAgain existing
    | some (store, finding) =>
        let progress :=
          { progress with
            store
            created := progress.created ++ [finding.id]
            report := progress.report.noteCreated finding }
        raiseAlert asset now progress delivery.fault finding

/-- The body of the loop. -/
def ingestRecord (runtime : Runtime) (tenant : Nat) (asset : Asset) (now : Nat)
    (progress : Progress) (delivery : Delivery) : Progress :=
  if progress.failure.isSome || delivery.raw.isTest then progress
  else
    let normalized := normalizeFinding runtime delivery.raw.endpoint delivery.raw.payload
    if normalized.secretPlain ≠ "" ∧ delivery.fault = some .encryption then
      progress.interrupt .encryption
    else if delivery.fault = some .lookup then progress.interrupt .lookup
    else
      match findExistingFinding progress.store tenant normalized with
      | some (store, existing) =>
          observeExisting now { progress with store } delivery.fault existing
      | none => insertNew tenant asset now progress delivery normalized

/-! ## A batch -/

/-- The store after a batch, with the findings created, the report and the
exception that stopped it. -/
def ingestRawFindings (runtime : Runtime) (tenant : Nat) (asset : Asset) (now : Nat)
    (report : IngestionReport) (deliveries : List Delivery) (store : Store) : Progress :=
  let progress := after (ingestRecord runtime tenant asset now) (Progress.start store report)
    deliveries
  if progress.failure.isNone && progress.created ≠ [] then
    { progress with store := markSynthesisStale progress.store tenant }
  else progress

/-! ## Runs of the application -/

inductive Event where
  | ingest (tenant : Nat) (asset : Asset) (now : Nat) (report : IngestionReport)
      (deliveries : List Delivery)
  | setStatus (tenant finding : Nat) (status : FindingStatus) (user : Option Nat) (now : Nat)

def step (runtime : Runtime) (store : Store) : Event → Store
  | .ingest tenant asset now report deliveries =>
      (ingestRawFindings runtime tenant asset now report deliveries store).store
  | .setStatus tenant finding status user now =>
      match getFinding store tenant finding with
      | none => store
      | some found => setFindingStatus store found status user now

/-! ## What ingestion keeps -/

/-- At most one finding for each tenant and deduplication hash. -/
def UniqueDedup (store : Store) : Prop :=
  ∀ first ∈ store.findings, ∀ second ∈ store.findings,
    first.tenant = second.tenant → first.dedupHash = second.dedupHash → first = second

/-- A later row of the same finding: its last observation may have moved, and a
row of the old format may have got its current key, once. -/
structure SameLeak (before after : BreachFinding) : Prop where
  kept : after = { before with
    lastSeenAt := after.lastSeenAt
    secretFingerprint := after.secretFingerprint
    dedupHash := after.dedupHash }
  once : (after.secretFingerprint = before.secretFingerprint ∧ after.dedupHash = before.dedupHash) ∨
    (isLegacy before.secretFingerprint = true ∧ isLegacy after.secretFingerprint = false)

/-- Every finding that existed is still there as the same leak, any other is
newly created, and an alert that is new or changed names a newly created one. -/
structure Ingested (before after : Store) : Prop where
  next_le : before.findings.next ≤ after.findings.next
  existing : ∀ finding ∈ before.findings, ∃ later ∈ after.findings, SameLeak finding later
  fresh : ∀ later ∈ after.findings,
    (∃ finding ∈ before.findings, finding.id = later.id) ∨ before.findings.next ≤ later.id
  alerts : ∀ alert ∈ after.alerts, alert ∈ before.alerts ∨
    ∃ finding type endpoint severity,
      alert.details = .breachCompromise finding type endpoint severity ∧
        before.findings.next ≤ finding

/-- The record is a test notification, or the lookup finds its leak. -/
def Recognised (runtime : Runtime) (tenant : Nat) (progress : Progress) (delivery : Delivery) :
    Prop :=
  delivery.raw.isTest = true ∨
    (findExistingFinding progress.store tenant
      (normalizeFinding runtime delivery.raw.endpoint delivery.raw.payload)).isSome = true

/-- No finding is created and no alert moves. -/
structure OpensNothing (before after : Progress) : Prop where
  next_eq : after.store.findings.next = before.store.findings.next
  created_eq : after.created = before.created
  alerts_eq : after.store.alerts = before.store.alerts

/-- What a step of the application does to the leaks that are known: a batch
keeps them as they are, and a record that is recognised opens nothing. -/
def KeepsKnownLeaks (runtime : Runtime) (store : Store) : Event → Prop
  | .ingest tenant asset now report deliveries =>
      Ingested store (step runtime store (.ingest tenant asset now report deliveries)) ∧
        EachStep (ingestRecord runtime tenant asset now)
          (fun progress delivery => Recognised runtime tenant progress delivery →
            OpensNothing progress (ingestRecord runtime tenant asset now progress delivery))
          (Progress.start store report) deliveries
  | .setStatus _ _ _ _ _ => True

namespace SameLeak

variable {first second third : BreachFinding}

theorem refl (finding : BreachFinding) : SameLeak finding finding :=
  ⟨rfl, Or.inl ⟨rfl, rfl⟩⟩

theorem id_eq (same : SameLeak first second) : second.id = first.id := by
  rw [same.kept]

theorem trans (near : SameLeak first second) (far : SameLeak second third) :
    SameLeak first third := by
  refine ⟨?_, ?_⟩
  · rw [far.kept, near.kept]
  · rcases near.once with ⟨print, hash⟩ | ⟨old, current⟩
    · rcases far.once with ⟨print', hash'⟩ | ⟨old, current⟩
      · exact Or.inl ⟨print'.trans print, hash'.trans hash⟩
      · exact Or.inr ⟨print ▸ old, current⟩
    · rcases far.once with ⟨print', _⟩ | ⟨old', _⟩
      · exact Or.inr ⟨old, print' ▸ current⟩
      · rw [current] at old'
        cases old'

/-- Moving the last observation. -/
theorem observed (finding : BreachFinding) (now : Nat) :
    SameLeak finding { finding with lastSeenAt := some now } :=
  ⟨rfl, Or.inl ⟨rfl, rfl⟩⟩

/-- The current key of a row of the old format. -/
theorem rekeyed {runtime : Runtime} {endpoint : String} {raw : List (String × Json)}
    (legacy : isLegacy first.secretFingerprint = true) :
    SameLeak first (first.rekey (normalizeFinding runtime endpoint raw)) :=
  ⟨rfl, Or.inr ⟨legacy, isLegacy_normalizeFinding runtime endpoint raw⟩⟩

end SameLeak

/-! ## One write -/

section Writes

variable {base store : Store}

theorem Ingested.refl (store : Store) : Ingested store store where
  next_le := Nat.le_refl _
  existing := fun finding member => ⟨finding, member, SameLeak.refl finding⟩
  fresh := fun later member => Or.inl ⟨later, member, rfl⟩
  alerts := fun _ member => Or.inl member

/-- An update that keeps the rows of the base as the same leaks. -/
theorem Ingested.modify (ingested : Ingested base store) {key : Nat}
    {change : BreachFinding → BreachFinding} {keeps : ∀ row, ident (change row) = ident row}
    (same : ∀ row ∈ store.findings, row.id = key → key < base.findings.next →
      SameLeak row (change row)) :
    Ingested base (store.modifyFinding key change keeps) where
  next_le := ingested.next_le
  existing := by
    intro finding member
    obtain ⟨later, inside, leak⟩ := ingested.existing finding member
    refine ⟨_, mem_modifyFinding.mpr ⟨later, inside, rfl⟩, ?_⟩
    split
    · rename_i hit
      have old : key < base.findings.next := by
        rw [← hit, leak.id_eq]
        exact base.findings.allocated finding member
      exact leak.trans (same later inside hit old)
    · exact leak
  fresh := by
    intro later member
    obtain ⟨row, inside, rfl⟩ := mem_modifyFinding.mp member
    have sameId : (if row.id = key then change row else row).id = row.id := by
      split
      · exact keeps row
      · rfl
    rw [sameId]
    exact ingested.fresh row inside
  alerts := ingested.alerts

/-- An insertion takes the next key. -/
theorem Ingested.create (ingested : Ingested base store) {build : Nat → BreachFinding}
    {ident_build : ∀ key, ident (build key) = key} :
    Ingested base (store.insertFinding build ident_build) where
  next_le := Nat.le_succ_of_le ingested.next_le
  existing := by
    intro finding member
    obtain ⟨later, inside, leak⟩ := ingested.existing finding member
    exact ⟨later, mem_insertFinding.mpr (Or.inl inside), leak⟩
  fresh := by
    intro later member
    rcases mem_insertFinding.mp member with old | rfl
    · exact ingested.fresh later old
    · apply Or.inr
      have key : (build store.findings.next).id = store.findings.next := ident_build _
      rw [key]
      exact ingested.next_le
  alerts := ingested.alerts

/-- The alert opened or updated names its finding, and every other stays. -/
theorem Ingested.openAlert (ingested : Ingested base store) {now : Nat} {asset : Asset}
    {severity : AlertSeverity} {finding : BreachFinding}
    (created : base.findings.next ≤ finding.id) :
    Ingested base { store with
      alerts := (openOrUpdateAlert now store.alerts asset .breachCompromise severity
        finding.alertDetails).1 } where
  next_le := ingested.next_le
  existing := ingested.existing
  fresh := ingested.fresh
  alerts := by
    intro alert member
    rcases Monitoring.details_of_mem_openOrUpdateAlert member with old | named
    · exact ingested.alerts alert old
    · exact Or.inr ⟨_, _, _, _, named, created⟩

theorem UniqueDedup.modify (unique : UniqueDedup store) {key : Nat}
    {change : BreachFinding → BreachFinding} {keeps : ∀ row, ident (change row) = ident row}
    (same : ∀ row, (change row).tenant = row.tenant ∧ (change row).dedupHash = row.dedupHash) :
    UniqueDedup (store.modifyFinding key change keeps) := by
  intro first inFirst second inSecond sameTenant sameHash
  obtain ⟨row, inside, rfl⟩ := mem_modifyFinding.mp inFirst
  obtain ⟨other, inside', rfl⟩ := mem_modifyFinding.mp inSecond
  have keyOf : ∀ row : BreachFinding,
      (if row.id = key then change row else row).tenant = row.tenant ∧
        (if row.id = key then change row else row).dedupHash = row.dedupHash := by
    intro row
    split
    · exact same row
    · exact ⟨rfl, rfl⟩
  rw [(keyOf row).1, (keyOf other).1] at sameTenant
  rw [(keyOf row).2, (keyOf other).2] at sameHash
  rw [unique row inside other inside' sameTenant sameHash]

/-- A free key may be given to one row of its tenant. -/
theorem UniqueDedup.rekey (unique : UniqueDedup store) {legacy : BreachFinding}
    {normalized : NormalizedFinding} (member : legacy ∈ store.findings)
    (free : ∀ row ∈ store.findings, row.hasKey legacy.tenant normalized.dedupHash = false) :
    UniqueDedup
      (store.modifyFinding legacy.id (BreachFinding.rekey normalized) (fun _ => rfl)) := by
  have taken : ∀ row ∈ store.findings, row.tenant = legacy.tenant →
      row.dedupHash ≠ normalized.dedupHash := by
    intro row inside sameTenant sameHash
    have hasKey := hasKey_iff.mpr ⟨sameTenant, sameHash⟩
    rw [free row inside] at hasKey
    cases hasKey
  intro first inFirst second inSecond sameTenant sameHash
  rcases (mem_modifyFinding_of_mem member).mp inFirst with rfl | ⟨old, _⟩
  · rcases (mem_modifyFinding_of_mem member).mp inSecond with rfl | ⟨old, _⟩
    · rfl
    · exact absurd sameHash.symm (taken second old sameTenant.symm)
  · rcases (mem_modifyFinding_of_mem member).mp inSecond with rfl | ⟨old', _⟩
    · exact absurd sameHash (taken first old sameTenant)
    · exact unique first old second old' sameTenant sameHash

/-- A free key may be inserted. -/
theorem UniqueDedup.create (unique : UniqueDedup store) {build : Nat → BreachFinding}
    {ident_build : ∀ key, ident (build key) = key}
    (free : ∀ row ∈ store.findings,
      row.hasKey (build store.findings.next).tenant (build store.findings.next).dedupHash =
        false) :
    UniqueDedup (store.insertFinding build ident_build) := by
  have taken : ∀ row ∈ store.findings, row.tenant = (build store.findings.next).tenant →
      row.dedupHash ≠ (build store.findings.next).dedupHash := by
    intro row inside sameTenant sameHash
    have hasKey := hasKey_iff.mpr ⟨sameTenant, sameHash⟩
    rw [free row inside] at hasKey
    cases hasKey
  intro first inFirst second inSecond sameTenant sameHash
  rcases mem_insertFinding.mp inFirst with old | rfl
  · rcases mem_insertFinding.mp inSecond with old' | rfl
    · exact unique first old second old' sameTenant sameHash
    · exact absurd sameHash (taken first old sameTenant)
  · rcases mem_insertFinding.mp inSecond with old' | rfl
    · exact absurd sameHash.symm (taken second old' sameTenant.symm)
    · rfl

end Writes

/-! ## The course of a record -/

theorem id_newFinding {tenant : Nat} {asset : Asset} {now : Nat} {normalized : NormalizedFinding}
    {secretEncrypted : Option String} (key : Nat) :
    ident (newFinding tenant asset now normalized secretEncrypted key) = key := rfl

/-- The loop once the record has been inserted. -/
def Progress.insert (progress : Progress) (tenant : Nat) (asset : Asset) (now : Nat)
    (normalized : NormalizedFinding) (secretEncrypted : Option String) : Progress :=
  let build := newFinding tenant asset now normalized secretEncrypted
  { progress with
    store := progress.store.insertFinding build id_newFinding
    created := progress.created ++ [progress.store.findings.next]
    report := progress.report.noteCreated (build progress.store.findings.next) }

/-- Nothing stops the record before its leak is looked up. -/
structure LooksUp (runtime : Runtime) (progress : Progress) (delivery : Delivery) : Prop where
  running : progress.failure = none
  real : delivery.raw.isTest = false
  encrypted : (normalizeFinding runtime delivery.raw.endpoint delivery.raw.payload).secretPlain = "" ∨
    delivery.fault ≠ some .encryption
  looked : delivery.fault ≠ some .lookup

/-- What one turn of the loop can do. -/
inductive RecordCourse (runtime : Runtime) (tenant : Nat) (asset : Asset) (now : Nat)
    (progress : Progress) (delivery : Delivery) : Progress → Prop where
  | passed (idle : progress.failure ≠ none ∨ delivery.raw.isTest = true) :
      RecordCourse runtime tenant asset now progress delivery progress
  | unencrypted (running : progress.failure = none) (real : delivery.raw.isTest = false)
      (secret : (normalizeFinding runtime delivery.raw.endpoint
        delivery.raw.payload).secretPlain ≠ "")
      (stopped : delivery.fault = some .encryption) :
      RecordCourse runtime tenant asset now progress delivery (progress.interrupt .encryption)
  | unlooked (running : progress.failure = none) (real : delivery.raw.isTest = false)
      (stopped : delivery.fault = some .lookup) :
      RecordCourse runtime tenant asset now progress delivery (progress.interrupt .lookup)
  | known {store : Store} {existing : BreachFinding} (looks : LooksUp runtime progress delivery)
      (found : findExistingFinding progress.store tenant
        (normalizeFinding runtime delivery.raw.endpoint delivery.raw.payload) =
          some (store, existing)) :
      RecordCourse runtime tenant asset now progress delivery
        (observeExisting now { progress with store } delivery.fault existing)
  | uninserted (looks : LooksUp runtime progress delivery)
      (unknown : findExistingFinding progress.store tenant
        (normalizeFinding runtime delivery.raw.endpoint delivery.raw.payload) = none)
      (stopped : delivery.fault = some .insertion) :
      RecordCourse runtime tenant asset now progress delivery (progress.interrupt .insertion)
  | inserted (secretEncrypted : Option String) (looks : LooksUp runtime progress delivery)
      (unknown : findExistingFinding progress.store tenant
        (normalizeFinding runtime delivery.raw.endpoint delivery.raw.payload) = none)
      (inserts : delivery.fault ≠ some .insertion) :
      RecordCourse runtime tenant asset now progress delivery
        (raiseAlert asset now
          (progress.insert tenant asset now
            (normalizeFinding runtime delivery.raw.endpoint delivery.raw.payload) secretEncrypted)
          delivery.fault
          (newFinding tenant asset now
            (normalizeFinding runtime delivery.raw.endpoint delivery.raw.payload) secretEncrypted
            progress.store.findings.next))

section Course

variable {runtime : Runtime} {tenant now : Nat} {asset : Asset} {progress : Progress}
  {delivery : Delivery}

/-- An unknown record is inserted, unless its insertion raises. -/
theorem insertNew_of_unknown {normalized : NormalizedFinding}
    (unknown : findExistingFinding progress.store tenant normalized = none) :
    insertNew tenant asset now progress delivery normalized =
      if delivery.fault = some .insertion then progress.interrupt .insertion
      else
        let secretEncrypted := if normalized.secretPlain = "" then none else some delivery.token
        raiseAlert asset now (progress.insert tenant asset now normalized secretEncrypted)
          delivery.fault
          (newFinding tenant asset now normalized secretEncrypted progress.store.findings.next) := by
  have created (secretEncrypted : Option String) :
      createFinding progress.store tenant asset now normalized secretEncrypted = some _ :=
    createFinding_eq_some.mpr ⟨key_free_of_not_found unknown, rfl, rfl⟩
  rw [insertNew]
  dsimp only
  rw [created]
  rfl

theorem ingestRecord_course (runtime : Runtime) (tenant now : Nat) (asset : Asset)
    (progress : Progress) (delivery : Delivery) :
    RecordCourse runtime tenant asset now progress delivery
      (ingestRecord runtime tenant asset now progress delivery) := by
  rw [ingestRecord]
  split
  · rename_i idle
    apply RecordCourse.passed
    rw [Bool.or_eq_true, Option.isSome_iff_ne_none] at idle
    exact idle
  rename_i handled
  obtain ⟨running, real⟩ : progress.failure = none ∧ delivery.raw.isTest = false := by
    simpa using handled
  dsimp only
  split
  · rename_i stopped
    exact .unencrypted running real stopped.1 stopped.2
  rename_i encrypted
  split
  · rename_i stopped
    exact .unlooked running real stopped
  rename_i looked
  have looks : LooksUp runtime progress delivery :=
    { running, real, looked
      encrypted := or_iff_not_imp_left.mpr fun secret stopped => encrypted ⟨secret, stopped⟩ }
  split
  · rename_i store existing found
    exact .known looks found
  · rename_i unknown
    rw [insertNew_of_unknown unknown]
    split
    · rename_i stopped
      exact .uninserted looks unknown stopped
    · rename_i inserts
      exact .inserted _ looks unknown inserts

end Course

/-! ## One record -/

/-- The store of the loop keeps the uniqueness and what ingestion promises of
the store the batch started from. -/
structure Sound (base : Store) (progress : Progress) : Prop where
  unique : UniqueDedup progress.store
  ingested : Ingested base progress.store

section Records

variable {runtime : Runtime} {base : Store} {tenant now : Nat} {asset : Asset}
  {progress : Progress} {fault : Option Fault} {finding : BreachFinding}

theorem Sound.start {report : IngestionReport} (unique : UniqueDedup base) :
    Sound base (Progress.start base report) :=
  ⟨unique, Ingested.refl base⟩

theorem Sound.observeExisting (sound : Sound base progress) :
    Sound base (observeExisting now progress fault finding) := by
  rw [ThreatIntelligence.observeExisting]
  split
  · exact ⟨sound.unique, sound.ingested⟩
  · exact ⟨sound.unique.modify fun _ => ⟨rfl, rfl⟩,
      sound.ingested.modify fun row _ _ _ => SameLeak.observed row now⟩

theorem Sound.raiseAlert (sound : Sound base progress)
    (created : base.findings.next ≤ finding.id) :
    Sound base (raiseAlert asset now progress fault finding) := by
  have opened : Ingested base { progress.store with
      alerts := (openOrUpdateAlert now progress.store.alerts asset .breachCompromise
        (findingSeverityToAlertSeverity finding.severity) finding.alertDetails).1 } :=
    sound.ingested.openAlert created
  rw [ThreatIntelligence.raiseAlert]
  split
  · exact ⟨sound.unique, sound.ingested⟩
  · dsimp only
    split
    · exact ⟨sound.unique, opened⟩
    · refine ⟨UniqueDedup.modify sound.unique fun _ => ⟨rfl, rfl⟩, opened.modify ?_⟩
      intro row _ _ old
      omega

theorem Sound.insert (sound : Sound base progress) {normalized : NormalizedFinding}
    {secretEncrypted : Option String}
    (unknown : findExistingFinding progress.store tenant normalized = none) :
    Sound base (progress.insert tenant asset now normalized secretEncrypted) :=
  ⟨sound.unique.create (key_free_of_not_found unknown), sound.ingested.create⟩

theorem Sound.lookup (sound : Sound base progress) {endpoint : String}
    {raw : List (String × Json)} {store : Store}
    (found : findExistingFinding progress.store tenant (normalizeFinding runtime endpoint raw) =
      some (store, finding)) : Sound base { progress with store } := by
  rcases findExistingFinding_cases found with ⟨rfl, _⟩ | ⟨legacy, member, matching, free, rfl, _⟩
  · exact sound
  · simp only [BreachFinding.matchesLegacy, Bool.and_eq_true, decide_eq_true_eq] at matching
    obtain ⟨⟨⟨rfl, _⟩, old⟩, _⟩ := matching
    refine ⟨sound.unique.rekey member free, sound.ingested.modify ?_⟩
    intro row inside hit _
    obtain rfl := Table.ident_injective inside member hit
    exact SameLeak.rekeyed old

theorem Sound.ingestRecord (sound : Sound base progress) (delivery : Delivery) :
    Sound base (ingestRecord runtime tenant asset now progress delivery) := by
  have course := ingestRecord_course runtime tenant now asset progress delivery
  generalize ThreatIntelligence.ingestRecord runtime tenant asset now progress delivery = later
    at course ⊢
  cases course with
  | passed idle => exact sound
  | unencrypted running real secret stopped => exact ⟨sound.unique, sound.ingested⟩
  | unlooked running real stopped => exact ⟨sound.unique, sound.ingested⟩
  | known looks found => exact (sound.lookup found).observeExisting
  | uninserted looks unknown stopped => exact ⟨sound.unique, sound.ingested⟩
  | inserted secretEncrypted looks unknown inserts =>
      exact (sound.insert unknown).raiseAlert sound.ingested.next_le

theorem opensNothing_observeExisting {store : Store} {normalized : NormalizedFinding}
    {existing : BreachFinding}
    (found : findExistingFinding progress.store tenant normalized = some (store, existing)) :
    OpensNothing progress (observeExisting now { progress with store } fault existing) := by
  have lookup : store.findings.next = progress.store.findings.next ∧
      store.alerts = progress.store.alerts := by
    rcases findExistingFinding_cases found with ⟨rfl, _⟩ | ⟨_, _, _, _, rfl, _⟩
    · exact ⟨rfl, rfl⟩
    · exact ⟨rfl, rfl⟩
  rw [observeExisting]
  split
  · exact ⟨lookup.1, rfl, lookup.2⟩
  · exact ⟨lookup.1, rfl, lookup.2⟩

/-- A recognised record is observed at most. -/
theorem opensNothing_of_recognised {delivery : Delivery}
    (recognised : Recognised runtime tenant progress delivery) :
    OpensNothing progress (ingestRecord runtime tenant asset now progress delivery) := by
  have course := ingestRecord_course runtime tenant now asset progress delivery
  generalize ingestRecord runtime tenant asset now progress delivery = later at course ⊢
  cases course with
  | passed idle => exact ⟨rfl, rfl, rfl⟩
  | unencrypted running real secret stopped => exact ⟨rfl, rfl, rfl⟩
  | unlooked running real stopped => exact ⟨rfl, rfl, rfl⟩
  | known looks found => exact opensNothing_observeExisting found
  | uninserted looks unknown stopped => exact ⟨rfl, rfl, rfl⟩
  | inserted secretEncrypted looks unknown inserts =>
      rw [Recognised, looks.real, unknown] at recognised
      exact absurd recognised (by simp)

end Records

/-! ## Batches and runs -/

theorem unique_markSynthesisStale {store : Store} {tenant : Nat} (unique : UniqueDedup store) :
    UniqueDedup (markSynthesisStale store tenant) := unique

/-- A batch, interrupted or not, keeps what ingestion promises. -/
theorem sound_ingestRawFindings {runtime : Runtime} {tenant now : Nat} {asset : Asset}
    {report : IngestionReport} {deliveries : List Delivery} {store : Store}
    (unique : UniqueDedup store) :
    Sound store (ingestRawFindings runtime tenant asset now report deliveries store) := by
  have loop : Sound store (after (ingestRecord runtime tenant asset now)
      (Progress.start store report) deliveries) :=
    (always_of_step (P := Sound store) (fun _ delivery sound => sound.ingestRecord delivery)
      (Sound.start unique) deliveries).last
  rw [ingestRawFindings]
  split
  · exact ⟨loop.unique, ⟨loop.ingested.next_le, loop.ingested.existing, loop.ingested.fresh,
      loop.ingested.alerts⟩⟩
  · exact loop

theorem unique_step {runtime : Runtime} {store : Store} {event : Event}
    (unique : UniqueDedup store) : UniqueDedup (step runtime store event) := by
  cases event with
  | ingest tenant asset now report deliveries => exact (sound_ingestRawFindings unique).unique
  | setStatus tenant finding status user now =>
      rw [step]
      split
      · exact unique
      · exact unique_markSynthesisStale (unique.modify fun _ => ⟨rfl, rfl⟩)

theorem keepsKnownLeaks_step {runtime : Runtime} {store : Store} {event : Event}
    (unique : UniqueDedup store) : KeepsKnownLeaks runtime store event := by
  cases event with
  | ingest tenant asset now report deliveries =>
      exact ⟨(sound_ingestRawFindings unique).ingested,
        eachStep_of_forall (fun _ _ => opensNothing_of_recognised) _ deliveries⟩
  | setStatus tenant finding status user now => trivial

/-- Over any run, a leak is stored once for each tenant, and a leak that is
known keeps its status, its dates and its alert. -/
theorem known_leaks_kept (runtime : Runtime) (start : Store) (unique : UniqueDedup start)
    (events : List Event) :
    Always (step runtime) UniqueDedup start events ∧
      EachStep (step runtime) (KeepsKnownLeaks runtime) start events := by
  have always : Always (step runtime) UniqueDedup start events :=
    always_of_step (fun _ _ => unique_step) unique events
  exact ⟨always, eachStep_of_always (fun _ _ => keepsKnownLeaks_step) always⟩

/-! A treated row of the old format, returned again by the provider. -/

section Returned

/-- Character tables that change no text, and a digest that reads it as a number. -/
def plainRuntime : Runtime :=
  { unicode := ⟨id, id, fun _ => true⟩
    sha256 := fun text =>
      BitVec.ofNat 256 (text.toList.foldl (fun value symbol => 257 * value + symbol.toNat) 0) }

def acmeSite : Asset :=
  { id := 1, tenant := 1, type := .website, value := "https://acme.fr", isActive := true }

def leakedCredential : RawFinding :=
  { endpoint := "creds"
    payload := [("eml", .str "jean@acme.fr"), ("pwd", .str "hunter2"), ("src", .str "forum")]
    isTest := false }

def treatedLegacyStore : Store :=
  let normalized := normalizeFinding plainRuntime leakedCredential.endpoint leakedCredential.payload
  { findings := Table.empty.create
      (fun key => { newFinding 1 acmeSite 10 normalized (some "token") key with
        status := .treated, treatedAt := some 20, dedupHash := "old"
        secretFingerprint := "legacy:••••••r2" })
      (fun _ => rfl)
    alerts := Table.empty
    syntheses := Table.empty }

theorem unique_treatedLegacyStore : UniqueDedup treatedLegacyStore := by
  intro first inFirst second inSecond _ _
  exact (List.mem_singleton.mp inFirst).trans (List.mem_singleton.mp inSecond).symm

theorem known_leaks_kept_returned :
    Always (step plainRuntime) UniqueDedup treatedLegacyStore
        [.ingest 1 acmeSite 30 ⟨[], [], []⟩ [⟨leakedCredential, "token", none⟩]] ∧
      EachStep (step plainRuntime) (KeepsKnownLeaks plainRuntime) treatedLegacyStore
        [.ingest 1 acmeSite 30 ⟨[], [], []⟩ [⟨leakedCredential, "token", none⟩]] :=
  known_leaks_kept plainRuntime treatedLegacyStore unique_treatedLegacyStore _

end Returned

end RssiService.ThreatIntelligence
