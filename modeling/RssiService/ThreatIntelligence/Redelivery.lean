import RssiService.ThreatIntelligence.Ingestion

/-!
# Interrupted batches

A batch that raises keeps the findings inserted before the exception.  On the
next delivery they are known leaks, which are only observed: what had not
happened for them when the batch stopped never happens.
-/

namespace RssiService.ThreatIntelligence

open Foundation Foundation.Run Python
open Monitoring (Asset Alert openOrUpdateAlert findOpen)

/-! ## Deliveries -/

/-- One call of the ingestion; `markFails` says that the update of the cached
synthesis, if it is reached, raises. -/
structure IngestionCall where
  tenant : Nat
  asset : Asset
  now : Nat
  report : IngestionReport
  deliveries : List Delivery
  markFails : Bool

/-- The loop over the records of a call. -/
def IngestionCall.loop (runtime : Runtime) (store : Store) (call : IngestionCall) : Progress :=
  after (ingestRecord runtime call.tenant call.asset call.now) (Progress.start store call.report)
    call.deliveries

/-- The store a call leaves, interrupted or not. -/
def ingestCall (runtime : Runtime) (store : Store) (call : IngestionCall) : Store :=
  if call.markFails then (call.loop runtime store).store
  else
    (ingestRawFindings runtime call.tenant call.asset call.now call.report call.deliveries
      store).store

/-- The call raises. -/
def IngestionCall.raises (runtime : Runtime) (store : Store) (call : IngestionCall) : Bool :=
  let progress := call.loop runtime store
  progress.failure.isSome || (call.markFails && progress.created ≠ [])

/-- `setdefault(ref, []).append(record)` on the groups of a payload. -/
def addToGroup (groups : List (String × List Delivery)) (record : String × Delivery) :
    List (String × List Delivery) :=
  if groups.any (fun group => group.1 = record.1) then
    groups.map fun group =>
      if group.1 = record.1 then (group.1, group.2 ++ [record.2]) else group
  else groups ++ [(record.1, [record.2])]

def byAssetRef (records : List (String × Delivery)) : List (String × List Delivery) :=
  records.foldl addToGroup []

/-- What the platform knows while it receives a payload. -/
structure Reception where
  resolve : String → Option (Nat × Asset)
  now : Nat
  markFails : String → Bool

/-- The state of the loop over the groups of a payload. -/
structure WebhookProgress where
  store : Store
  findingsCreated : Nat
  unmatchedRefs : List String
  raised : Bool

def Reception.call (reception : Reception) (target : Nat × Asset)
    (group : String × List Delivery) : IngestionCall :=
  { tenant := target.1, asset := target.2, now := reception.now, report := ⟨[], [], []⟩
    deliveries := group.2, markFails := reception.markFails group.1 }

/-- A group whose asset is unknown is passed over; one that raises stops the payload. -/
def receiveGroup (runtime : Runtime) (reception : Reception) (progress : WebhookProgress)
    (group : String × List Delivery) : WebhookProgress :=
  if progress.raised then progress
  else
    match reception.resolve group.1 with
    | none => { progress with unmatchedRefs := progress.unmatchedRefs ++ [group.1] }
    | some target =>
        let call := reception.call target group
        { progress with
          store := ingestCall runtime progress.store call
          findingsCreated :=
            progress.findingsCreated + (call.loop runtime progress.store).created.length
          raised := call.raises runtime progress.store }

def ingestWebhookPayload (runtime : Runtime) (reception : Reception)
    (records : List (String × Delivery)) (store : Store) : WebhookProgress :=
  after (receiveGroup runtime reception) ⟨store, 0, [], false⟩ (byAssetRef records)

/-! ## What a run of deliveries should leave -/

/-- The finding is new since the base. -/
def Persisted (base : Store) (finding : BreachFinding) : Prop :=
  base.findings.next ≤ finding.id

/-- The finding names an open breach alert of its asset. -/
def Attached (store : Store) (finding : BreachFinding) : Prop :=
  ∃ alert ∈ store.alerts, finding.alert = some alert.id ∧
    alert.openFor finding.asset .breachCompromise = true

def AllStale (tenant : Nat) (store : Store) : Prop :=
  ∀ synthesis ∈ store.syntheses, synthesis.tenant = tenant → synthesis.isStale = true

/-- Every open finding persisted since the base is attached to an open alert of
its asset, and the cached synthesis of its tenant is stale. -/
structure NothingLeftBehind (base store : Store) : Prop where
  attached : ∀ finding ∈ store.findings, Persisted base finding → finding.status = .open →
    Attached store finding
  stale : ∀ finding ∈ store.findings, Persisted base finding → finding.status = .open →
    AllStale finding.tenant store

/-! ## The condition -/

/-- The record gets as far as its insertion: nothing interrupts it before, and
its leak is unknown. -/
def Inserts (runtime : Runtime) (tenant : Nat) (progress : Progress) (delivery : Delivery) :
    Prop :=
  let normalized := normalizeFinding runtime delivery.raw.endpoint delivery.raw.payload
  progress.failure = none ∧ delivery.raw.isTest = false ∧
    (normalized.secretPlain = "" ∨ delivery.fault ≠ some .encryption) ∧
    delivery.fault ≠ some .lookup ∧
    findExistingFinding progress.store tenant normalized = none ∧
    delivery.fault ≠ some .insertion

/-- The record meets its exception. -/
def Stops (runtime : Runtime) (tenant : Nat) (progress : Progress) (delivery : Delivery) : Prop :=
  let normalized := normalizeFinding runtime delivery.raw.endpoint delivery.raw.payload
  let existing := findExistingFinding progress.store tenant normalized
  delivery.raw.isTest = false ∧
    match delivery.fault with
    | none => False
    | some .encryption => normalized.secretPlain ≠ ""
    | some .lookup => True
    | some .observation => existing.isSome = true
    | some .insertion | some .alert | some .attachment => existing = none

/-- A record that is inserted is not interrupted before it is attached. -/
def AttachedAtOnce (runtime : Runtime) (tenant : Nat) (progress : Progress)
    (delivery : Delivery) : Prop :=
  Inserts runtime tenant progress delivery →
    delivery.fault ≠ some .alert ∧ delivery.fault ≠ some .attachment

/-- Every record the call inserts is attached at once. -/
def NoneCutShort (runtime : Runtime) (store : Store) (call : IngestionCall) : Prop :=
  EachStep (ingestRecord runtime call.tenant call.asset call.now)
    (AttachedAtOnce runtime call.tenant) (Progress.start store call.report) call.deliveries

/-- The call inserts a record. -/
def InsertsSome (runtime : Runtime) (store : Store) (call : IngestionCall) : Prop :=
  SomeStep (ingestRecord runtime call.tenant call.asset call.now) (Inserts runtime call.tenant)
    (Progress.start store call.report) call.deliveries

/-- Some record of the call meets its exception. -/
def StopsSomewhere (runtime : Runtime) (store : Store) (call : IngestionCall) : Prop :=
  SomeStep (ingestRecord runtime call.tenant call.asset call.now) (Stops runtime call.tenant)
    (Progress.start store call.report) call.deliveries

/-- The call inserts a record of the tenant. -/
def InsertsFor (runtime : Runtime) (tenant : Nat) (store : Store) (call : IngestionCall) : Prop :=
  call.tenant = tenant ∧ InsertsSome runtime store call

/-- The call inserts a record of the tenant and meets no exception. -/
def CompletesFor (runtime : Runtime) (tenant : Nat) (store : Store) (call : IngestionCall) :
    Prop :=
  InsertsFor runtime tenant store call ∧ ¬ StopsSomewhere runtime store call ∧
    call.markFails = false

/-! ## One record -/

/-- The two rows have the same key, owner, status and alert. -/
structure SamePlace (before after : BreachFinding) : Prop where
  id_eq : after.id = before.id
  tenant_eq : after.tenant = before.tenant
  asset_eq : after.asset = before.asset
  status_eq : after.status = before.status
  alert_eq : after.alert = before.alert

theorem SamePlace.refl (finding : BreachFinding) : SamePlace finding finding :=
  ⟨rfl, rfl, rfl, rfl, rfl⟩

/-- The record inserts nothing: every finding keeps its place. -/
structure InsertsNone (before after : Progress) : Prop where
  created_eq : after.created = before.created
  alerts_eq : after.store.alerts = before.store.alerts
  syntheses_eq : after.store.syntheses = before.store.syntheses
  next_eq : after.store.findings.next = before.store.findings.next
  kept : ∀ finding ∈ before.store.findings, ∃ later ∈ after.store.findings,
    SamePlace finding later
  old : ∀ later ∈ after.store.findings, ∃ finding ∈ before.store.findings,
    SamePlace finding later

section Records

variable {runtime : Runtime} {base : Store} {tenant now : Nat} {asset : Asset}
  {progress : Progress} {delivery : Delivery}

theorem InsertsNone.refl (progress : Progress) : InsertsNone progress progress where
  created_eq := rfl
  alerts_eq := rfl
  syntheses_eq := rfl
  next_eq := rfl
  kept := fun finding member => ⟨finding, member, SamePlace.refl finding⟩
  old := fun later member => ⟨later, member, SamePlace.refl later⟩

theorem InsertsNone.interrupt (progress : Progress) (fault : Fault) :
    InsertsNone progress (progress.interrupt fault) :=
  { InsertsNone.refl progress with }

theorem InsertsNone.seenAgain (progress : Progress) (existing : BreachFinding) :
    InsertsNone progress (progress.seenAgain existing) :=
  { InsertsNone.refl progress with }

theorem InsertsNone.trans {first second third : Progress} (near : InsertsNone first second)
    (far : InsertsNone second third) : InsertsNone first third where
  created_eq := far.created_eq.trans near.created_eq
  alerts_eq := far.alerts_eq.trans near.alerts_eq
  syntheses_eq := far.syntheses_eq.trans near.syntheses_eq
  next_eq := far.next_eq.trans near.next_eq
  kept := by
    intro finding member
    obtain ⟨middle, inside, same⟩ := near.kept finding member
    obtain ⟨later, inside', same'⟩ := far.kept middle inside
    exact ⟨later, inside', same'.id_eq.trans same.id_eq, same'.tenant_eq.trans same.tenant_eq,
      same'.asset_eq.trans same.asset_eq, same'.status_eq.trans same.status_eq,
      same'.alert_eq.trans same.alert_eq⟩
  old := by
    intro later member
    obtain ⟨middle, inside, same⟩ := far.old later member
    obtain ⟨finding, inside', same'⟩ := near.old middle inside
    exact ⟨finding, inside', same.id_eq.trans same'.id_eq, same.tenant_eq.trans same'.tenant_eq,
      same.asset_eq.trans same'.asset_eq, same.status_eq.trans same'.status_eq,
      same.alert_eq.trans same'.alert_eq⟩

/-- An update of one row that keeps its place. -/
theorem InsertsNone.modify {key : Nat} {change : BreachFinding → BreachFinding}
    {keeps : ∀ row, ident (change row) = ident row}
    (same : ∀ row, SamePlace row (change row)) :
    InsertsNone progress { progress with store := progress.store.modifyFinding key change keeps }
    where
  created_eq := rfl
  alerts_eq := rfl
  syntheses_eq := rfl
  next_eq := rfl
  kept := by
    intro finding member
    refine ⟨_, mem_modifyFinding.mpr ⟨finding, member, rfl⟩, ?_⟩
    split
    · exact same finding
    · exact SamePlace.refl finding
  old := by
    intro later member
    obtain ⟨row, inside, rfl⟩ := mem_modifyFinding.mp member
    refine ⟨row, inside, ?_⟩
    split
    · exact same row
    · exact SamePlace.refl row

/-- A lookup moves no finding from its place. -/
theorem insertsNone_lookup {normalized : NormalizedFinding} {store : Store}
    {existing : BreachFinding}
    (found : findExistingFinding progress.store tenant normalized = some (store, existing)) :
    InsertsNone progress { progress with store } := by
  rcases findExistingFinding_cases found with ⟨rfl, _⟩ | ⟨legacy, _, _, _, rfl, _⟩
  · exact InsertsNone.refl progress
  · exact InsertsNone.modify fun _ => ⟨rfl, rfl, rfl, rfl, rfl⟩

theorem insertsNone_observeExisting {fault : Option Fault} {existing : BreachFinding} :
    InsertsNone progress (observeExisting now progress fault existing) := by
  rw [observeExisting]
  split
  · exact InsertsNone.interrupt progress .observation
  · have seen : InsertsNone progress { progress with
        store := progress.store.modifyFinding existing.id
          (fun row => { row with lastSeenAt := some now }) (fun _ => rfl) } :=
      InsertsNone.modify fun _ => ⟨rfl, rfl, rfl, rfl, rfl⟩
    exact seen.trans (InsertsNone.seenAgain _ existing)

/-- A record inserts nothing, or it is inserted and raises the alert. -/
theorem ingestRecord_cases (runtime : Runtime) (tenant now : Nat) (asset : Asset)
    (progress : Progress) (delivery : Delivery) :
    (¬ Inserts runtime tenant progress delivery ∧
        InsertsNone progress (ingestRecord runtime tenant asset now progress delivery)) ∨
      (Inserts runtime tenant progress delivery ∧ ∃ normalized secretEncrypted,
        ingestRecord runtime tenant asset now progress delivery =
          raiseAlert asset now (progress.insert tenant asset now normalized secretEncrypted)
            delivery.fault
            (newFinding tenant asset now normalized secretEncrypted
              progress.store.findings.next)) := by
  have course := ingestRecord_course runtime tenant now asset progress delivery
  generalize ingestRecord runtime tenant asset now progress delivery = later at course ⊢
  cases course with
  | passed idle =>
      apply Or.inl
      refine ⟨?_, InsertsNone.refl progress⟩
      rintro ⟨running, real, _⟩
      rw [real] at idle
      exact idle.resolve_right (by rintro ⟨⟩) running
  | unencrypted running real secret stopped =>
      apply Or.inl
      refine ⟨?_, InsertsNone.interrupt progress .encryption⟩
      rintro ⟨_, _, encrypted, _⟩
      exact encrypted.resolve_left secret stopped
  | unlooked running real stopped =>
      exact Or.inl ⟨fun inserts => inserts.2.2.2.1 stopped, InsertsNone.interrupt progress .lookup⟩
  | known looks found =>
      apply Or.inl
      refine ⟨?_, (insertsNone_lookup found).trans insertsNone_observeExisting⟩
      rintro ⟨_, _, _, _, unknown, _⟩
      rw [found] at unknown
      cases unknown
  | uninserted looks unknown stopped =>
      exact Or.inl ⟨fun inserts => inserts.2.2.2.2.2 stopped,
        InsertsNone.interrupt progress .insertion⟩
  | inserted secretEncrypted looks unknown inserts =>
      exact Or.inr ⟨⟨looks.running, looks.real, looks.encrypted, looks.looked, unknown, inserts⟩,
        _, _, rfl⟩

/-- The loop is interrupted exactly where a record meets its exception. -/
theorem failure_raiseAlert {fault : Option Fault} {finding : BreachFinding}
    (running : progress.failure = none) :
    (raiseAlert asset now progress fault finding).failure ≠ none ↔
      fault = some .alert ∨ fault = some .attachment := by
  rw [raiseAlert]
  split
  · rename_i atAlert
    exact iff_of_true (by rintro ⟨⟩) (Or.inl atAlert)
  · rename_i notAlert
    dsimp only
    split
    · rename_i atAttachment
      exact iff_of_true (by rintro ⟨⟩) (Or.inr atAttachment)
    · rename_i notAttachment
      exact iff_of_false (fun failed => failed running)
        (fun either => either.elim notAlert notAttachment)

theorem failure_ingestRecord :
    (ingestRecord runtime tenant asset now progress delivery).failure ≠ none ↔
      progress.failure ≠ none ∨ Stops runtime tenant progress delivery := by
  have course := ingestRecord_course runtime tenant now asset progress delivery
  generalize ingestRecord runtime tenant asset now progress delivery = later at course ⊢
  cases course with
  | passed idle =>
      rw [or_iff_left_of_imp]
      rintro ⟨real, _⟩
      rw [real] at idle
      exact idle.resolve_right (by rintro ⟨⟩)
  | unencrypted running real secret stopped =>
      exact iff_of_true (by rintro ⟨⟩) (Or.inr ⟨real, by rw [stopped]; exact secret⟩)
  | unlooked running real stopped =>
      exact iff_of_true (by rintro ⟨⟩) (Or.inr ⟨real, by rw [stopped]; trivial⟩)
  | known looks found =>
      rw [or_iff_right (fun failed => failed looks.running), Stops, found, observeExisting]
      have real := looks.real
      split
      · rename_i stopped
        rw [stopped]
        exact iff_of_true (by rintro ⟨⟩) ⟨real, rfl⟩
      · rename_i observed
        refine iff_of_false (fun failed => failed looks.running) ?_
        rintro ⟨_, stops⟩
        have encrypted := looks.encrypted
        have looked := looks.looked
        split at stops <;> simp_all
  | uninserted looks unknown stopped =>
      exact iff_of_true (by rintro ⟨⟩) (Or.inr ⟨looks.real, by rw [stopped]; exact unknown⟩)
  | inserted secretEncrypted looks unknown inserts =>
      rw [or_iff_right (fun failed => failed looks.running), Stops, unknown,
        failure_raiseAlert (by exact looks.running)]
      have real := looks.real
      have encrypted := looks.encrypted
      have looked := looks.looked
      simp only [real, true_and]
      split <;> simp_all

theorem created_raiseAlert {fault : Option Fault} {finding : BreachFinding} :
    (raiseAlert asset now progress fault finding).created = progress.created := by
  rw [raiseAlert]
  split
  · rfl
  · dsimp only
    split <;> rfl

theorem syntheses_raiseAlert {fault : Option Fault} {finding : BreachFinding} :
    (raiseAlert asset now progress fault finding).store.syntheses = progress.store.syntheses := by
  rw [raiseAlert]
  split
  · rfl
  · dsimp only
    split <;> rfl

theorem created_ingestRecord :
    (ingestRecord runtime tenant asset now progress delivery).created ≠ [] ↔
      progress.created ≠ [] ∨ Inserts runtime tenant progress delivery := by
  rcases ingestRecord_cases runtime tenant now asset progress delivery with
    ⟨passes, none⟩ | ⟨inserts, _, _, eq⟩
  · rw [none.created_eq, or_iff_left passes]
  · rw [eq, created_raiseAlert]
    exact iff_of_true (List.append_ne_nil_of_right_ne_nil _ (List.cons_ne_nil _ _))
      (Or.inr inserts)

theorem syntheses_ingestRecord :
    (ingestRecord runtime tenant asset now progress delivery).store.syntheses =
      progress.store.syntheses := by
  rcases ingestRecord_cases runtime tenant now asset progress delivery with
    ⟨_, none⟩ | ⟨_, _, _, eq⟩
  · exact none.syntheses_eq
  · rw [eq, syntheses_raiseAlert]
    rfl

end Records

/-! ## The new finding -/

section Raising

variable {base : Store} {tenant now : Nat} {asset : Asset} {progress : Progress}
  {fault : Option Fault} {normalized : NormalizedFinding} {secretEncrypted : Option String}

/-- The alert opened or updated for a new finding, with the table after it. -/
def openedFor (progress : Progress) (asset : Asset) (now : Nat) (finding : BreachFinding) :
    Foundation.Table Alert × Alert × Bool :=
  openOrUpdateAlert now progress.store.alerts asset .breachCompromise
    (findingSeverityToAlertSeverity finding.severity) finding.alertDetails

theorem openedFor_spec (progress : Progress) (asset : Asset) (now : Nat)
    (finding : BreachFinding) :
    Monitoring.OpenedAs progress.store.alerts asset .breachCompromise
      (findingSeverityToAlertSeverity finding.severity) finding.alertDetails
      (openedFor progress asset now finding) :=
  Monitoring.openOrUpdateAlert_spec

/-- The row of the new finding once its alert has been raised, or not. -/
def raisedRow (progress : Progress) (asset : Asset) (now : Nat) (fault : Option Fault)
    (finding : BreachFinding) : BreachFinding :=
  { finding with
    alert :=
      if fault = some .alert ∨ fault = some .attachment then none
      else some (openedFor progress asset now finding).2.1.id }

theorem mem_insert {finding : BreachFinding} :
    finding ∈ (progress.insert tenant asset now normalized secretEncrypted).store.findings ↔
      finding ∈ progress.store.findings ∨
        finding = newFinding tenant asset now normalized secretEncrypted
          progress.store.findings.next :=
  mem_insertFinding

theorem mem_raiseAlert {finding : BreachFinding} :
    finding ∈ (raiseAlert asset now
        (progress.insert tenant asset now normalized secretEncrypted) fault
        (newFinding tenant asset now normalized secretEncrypted
          progress.store.findings.next)).store.findings ↔
      finding ∈ progress.store.findings ∨
        finding = raisedRow progress asset now fault
          (newFinding tenant asset now normalized secretEncrypted
            progress.store.findings.next) := by
  rw [raiseAlert]
  split
  · rename_i atAlert
    rw [raisedRow, if_pos (Or.inl atAlert)]
    exact mem_insert
  · rename_i notAlert
    dsimp only
    split
    · rename_i atAttachment
      rw [raisedRow, if_pos (Or.inr atAttachment)]
      exact mem_insert
    · rename_i notAttachment
      rw [raisedRow, if_neg (not_or.mpr ⟨notAlert, notAttachment⟩), mem_modifyFinding]
      constructor
      · rintro ⟨row, inside, rfl⟩
        rcases mem_insert.mp inside with old | rfl
        · split
          · rename_i hit
            exact absurd hit (Table.ne_next old)
          · exact Or.inl old
        · exact Or.inr (if_pos rfl)
      · rintro (old | rfl)
        · exact ⟨finding, mem_insert.mpr (Or.inl old), if_neg (Table.ne_next old)⟩
        · exact ⟨_, mem_insert.mpr (Or.inr rfl), if_pos rfl⟩

theorem alerts_raiseAlert {finding : BreachFinding} :
    (raiseAlert asset now (progress.insert tenant asset now normalized secretEncrypted) fault
        finding).store.alerts =
      if fault = some .alert then progress.store.alerts
      else (openedFor progress asset now finding).1 := by
  rw [raiseAlert]
  split
  · rfl
  · dsimp only
    split <;> rfl

theorem next_raiseAlert {finding : BreachFinding} :
    (raiseAlert asset now (progress.insert tenant asset now normalized secretEncrypted) fault
        finding).store.findings.next = progress.store.findings.next + 1 := by
  rw [raiseAlert]
  split
  · rfl
  · dsimp only
    split <;> rfl

/-- Opening keeps every open alert open for its asset. -/
theorem openFor_openedFor {finding : BreachFinding} {alert : Alert} {owner : Nat}
    (member : alert ∈ progress.store.alerts)
    (isOpen : alert.openFor owner .breachCompromise = true) :
    ∃ later ∈ (openedFor progress asset now finding).1, later.id = alert.id ∧
      later.openFor owner .breachCompromise = true := by
  have opened := openedFor_spec progress asset now finding
  rcases eq_or_ne alert.id (openedFor progress asset now finding).2.1.id with hit | miss
  · refine ⟨_, (opened.rows _).mpr (Or.inr rfl), hit.symm, ?_⟩
    have key := hit.trans opened.key
    cases found : findOpen progress.store.alerts asset.id .breachCompromise with
    | none =>
        rw [found] at key
        exact absurd key (Table.ne_next member)
    | some standing =>
        rw [found] at key
        obtain ⟨inside, standingOpen⟩ := Monitoring.mem_of_findOpen found
        obtain rfl := Table.ident_injective member inside key
        have sameAsset := (Monitoring.openFor_iff.mp standingOpen).1
        have owned := (Monitoring.openFor_iff.mp isOpen).1
        rw [← owned, sameAsset]
        exact opened.openFor
  · exact ⟨alert, (opened.rows alert).mpr (Or.inl ⟨member, miss⟩), rfl, isOpen⟩

/-- Every finding persisted since the base is open, and its alert, if it has
one, is open for its asset. -/
structure Filed (base store : Store) : Prop where
  next_le : base.findings.next ≤ store.findings.next
  isOpen : ∀ finding ∈ store.findings, Persisted base finding → finding.status = .open
  linked : ∀ finding ∈ store.findings, Persisted base finding → ∀ key, finding.alert = some key →
    ∃ alert ∈ store.alerts, alert.id = key ∧ alert.openFor finding.asset .breachCompromise = true

/-- Every finding persisted since the base has an alert. -/
def AllAlerted (base store : Store) : Prop :=
  ∀ finding ∈ store.findings, Persisted base finding → finding.alert ≠ none

/-- Some finding of the tenant has been persisted since the base. -/
def PersistedFor (base : Store) (tenant : Nat) (store : Store) : Prop :=
  ∃ finding ∈ store.findings, Persisted base finding ∧ finding.tenant = tenant

theorem Filed.start (base : Store) : Filed base base where
  next_le := Nat.le_refl _
  isOpen := fun finding member persisted =>
    absurd (base.findings.allocated finding member) (Nat.not_lt.mpr persisted)
  linked := fun finding member persisted =>
    absurd (base.findings.allocated finding member) (Nat.not_lt.mpr persisted)

theorem not_persisted_start {finding : BreachFinding} (member : finding ∈ base.findings) :
    ¬ Persisted base finding :=
  Nat.not_le.mpr (base.findings.allocated finding member)

theorem Filed.insertsNone {later : Progress} (filed : Filed base progress.store)
    (none : InsertsNone progress later) : Filed base later.store where
  next_le := none.next_eq ▸ filed.next_le
  isOpen := by
    intro finding member persisted
    obtain ⟨row, inside, same⟩ := none.old finding member
    rw [same.status_eq]
    rw [Persisted, same.id_eq] at persisted
    exact filed.isOpen row inside persisted
  linked := by
    intro finding member persisted key attached
    obtain ⟨row, inside, same⟩ := none.old finding member
    rw [none.alerts_eq, same.asset_eq]
    rw [Persisted, same.id_eq] at persisted
    rw [same.alert_eq] at attached
    exact filed.linked row inside persisted key attached

theorem Filed.raised (filed : Filed base progress.store) :
    Filed base (raiseAlert asset now
      (progress.insert tenant asset now normalized secretEncrypted) fault
      (newFinding tenant asset now normalized secretEncrypted
        progress.store.findings.next)).store where
  next_le := by
    rw [next_raiseAlert]
    exact Nat.le_succ_of_le filed.next_le
  isOpen := by
    intro finding member persisted
    rcases mem_raiseAlert.mp member with old | rfl
    · exact filed.isOpen finding old persisted
    · rfl
  linked := by
    intro finding member persisted key attached
    rw [alerts_raiseAlert]
    rcases mem_raiseAlert.mp member with old | rfl
    · obtain ⟨alert, inside, rfl, isOpen⟩ := filed.linked finding old persisted key attached
      split
      · exact ⟨alert, inside, rfl, isOpen⟩
      · exact openFor_openedFor inside isOpen
    · simp only [raisedRow] at attached
      split at attached
      · cases attached
      · rename_i raised
        rw [if_neg (not_or.mp raised).1]
        have opened := openedFor_spec progress asset now
          (newFinding tenant asset now normalized secretEncrypted progress.store.findings.next)
        exact ⟨_, (opened.rows _).mpr (Or.inr rfl), Option.some.inj attached, opened.openFor⟩

theorem allAlerted_insertsNone {later : Progress} (none : InsertsNone progress later) :
    AllAlerted base later.store ↔ AllAlerted base progress.store := by
  constructor
  · intro all finding member persisted
    obtain ⟨row, inside, same⟩ := none.kept finding member
    rw [← same.alert_eq]
    apply all row inside
    rw [Persisted, same.id_eq]
    exact persisted
  · intro all finding member persisted
    obtain ⟨row, inside, same⟩ := none.old finding member
    rw [same.alert_eq]
    apply all row inside
    rw [Persisted, ← same.id_eq]
    exact persisted

theorem persistedFor_insertsNone {later : Progress} {owner : Nat}
    (none : InsertsNone progress later) :
    PersistedFor base owner later.store ↔ PersistedFor base owner progress.store := by
  constructor
  · rintro ⟨finding, member, persisted, owned⟩
    obtain ⟨row, inside, same⟩ := none.old finding member
    rw [Persisted, same.id_eq] at persisted
    exact ⟨row, inside, persisted, same.tenant_eq ▸ owned⟩
  · rintro ⟨finding, member, persisted, owned⟩
    obtain ⟨row, inside, same⟩ := none.kept finding member
    rw [Persisted, ← same.id_eq] at persisted
    exact ⟨row, inside, persisted, same.tenant_eq.trans owned⟩

end Raising

/-! ## Exactness for one record -/

section Exactness

variable {runtime : Runtime} {base : Store} {tenant owner now : Nat} {asset : Asset}
  {progress : Progress} {delivery : Delivery}

theorem filed_ingestRecord (filed : Filed base progress.store) :
    Filed base (ingestRecord runtime tenant asset now progress delivery).store := by
  rcases ingestRecord_cases runtime tenant now asset progress delivery with
    ⟨_, none⟩ | ⟨_, _, _, eq⟩
  · exact filed.insertsNone none
  · rw [eq]
    exact filed.raised

theorem allAlerted_ingestRecord (filed : Filed base progress.store) :
    AllAlerted base (ingestRecord runtime tenant asset now progress delivery).store ↔
      AllAlerted base progress.store ∧ AttachedAtOnce runtime tenant progress delivery := by
  rcases ingestRecord_cases runtime tenant now asset progress delivery with
    ⟨passes, none⟩ | ⟨inserts, _, _, eq⟩
  · rw [allAlerted_insertsNone none, and_iff_left]
    exact fun inserts => absurd inserts passes
  · rw [eq]
    constructor
    · intro all
      refine ⟨fun finding member persisted =>
        all finding (mem_raiseAlert.mpr (Or.inl member)) persisted, fun _ => ?_⟩
      have alerted := all _ (mem_raiseAlert.mpr (Or.inr rfl)) filed.next_le
      exact not_or.mp fun cut => alerted (if_pos cut)
    · rintro ⟨all, atOnce⟩ finding member persisted
      rcases mem_raiseAlert.mp member with old | rfl
      · exact all finding old persisted
      · intro unalerted
        have raised := not_or.mpr (atOnce inserts)
        rw [raisedRow, if_neg raised] at unalerted
        cases unalerted

theorem persistedFor_ingestRecord (filed : Filed base progress.store) :
    PersistedFor base owner (ingestRecord runtime tenant asset now progress delivery).store ↔
      PersistedFor base owner progress.store ∨
        (tenant = owner ∧ Inserts runtime tenant progress delivery) := by
  rcases ingestRecord_cases runtime tenant now asset progress delivery with
    ⟨passes, none⟩ | ⟨inserts, _, _, eq⟩
  · rw [persistedFor_insertsNone none, or_iff_left fun both => passes both.2]
  · rw [eq]
    constructor
    · rintro ⟨finding, member, persisted, owned⟩
      rcases mem_raiseAlert.mp member with old | rfl
      · exact Or.inl ⟨finding, old, persisted, owned⟩
      · exact Or.inr ⟨owned, inserts⟩
    · rintro (⟨finding, member, persisted, owned⟩ | ⟨owned, _⟩)
      · exact ⟨finding, mem_raiseAlert.mpr (Or.inl member), persisted, owned⟩
      · exact ⟨_, mem_raiseAlert.mpr (Or.inr rfl), filed.next_le, owned⟩

end Exactness

/-! ## Exactness for one call -/

section Calls

variable {runtime : Runtime} {base store : Store} {owner : Nat} {call : IngestionCall}

theorem failure_loop :
    (call.loop runtime store).failure ≠ none ↔ StopsSomewhere runtime store call := by
  have exact := after_iff_someStep (I := fun _ => True) (P := fun progress => progress.failure ≠ none)
    (C := Stops runtime call.tenant)
    (ingestRecord runtime call.tenant call.asset call.now) (fun _ _ _ => trivial)
    (fun _ _ _ => failure_ingestRecord) (Progress.start store call.report) trivial
    call.deliveries
  rw [IngestionCall.loop, exact]
  exact or_iff_right fun failed => failed rfl

theorem created_loop :
    (call.loop runtime store).created ≠ [] ↔ InsertsSome runtime store call := by
  have exact := after_iff_someStep (I := fun _ => True) (P := fun progress => progress.created ≠ [])
    (C := Inserts runtime call.tenant)
    (ingestRecord runtime call.tenant call.asset call.now) (fun _ _ _ => trivial)
    (fun _ _ _ => created_ingestRecord) (Progress.start store call.report) trivial
    call.deliveries
  rw [IngestionCall.loop, exact]
  exact or_iff_right fun failed => failed rfl

theorem syntheses_loop : (call.loop runtime store).store.syntheses = store.syntheses :=
  (always_of_step (P := fun progress : Progress => progress.store.syntheses = store.syntheses)
    (fun _ _ same => syntheses_ingestRecord.trans same) rfl call.deliveries).last

/-- A call marks the synthesis of its tenant where it completes with a finding. -/
theorem ingestCall_eq :
    ingestCall runtime store call =
      if call.markFails = false ∧ (call.loop runtime store).failure = none ∧
          (call.loop runtime store).created ≠ [] then
        markSynthesisStale (call.loop runtime store).store call.tenant
      else (call.loop runtime store).store := by
  rw [ingestCall]
  cases fails : call.markFails with
  | true => simp
  | false =>
      rw [ingestRawFindings]
      simp only [Bool.false_eq_true, if_false, true_and, Bool.and_eq_true,
        Option.isNone_iff_eq_none, decide_eq_true_eq, apply_ite Progress.store]
      rfl

/-- Apart from the syntheses, a call leaves the store of its loop. -/
theorem findings_ingestCall :
    (ingestCall runtime store call).findings = (call.loop runtime store).store.findings ∧
      (ingestCall runtime store call).alerts = (call.loop runtime store).store.alerts := by
  rw [ingestCall_eq]
  split
  · exact ⟨rfl, rfl⟩
  · exact ⟨rfl, rfl⟩

theorem Filed.congr {other : Store} (filed : Filed base store)
    (same : other.findings = store.findings ∧ other.alerts = store.alerts) :
    Filed base other where
  next_le := same.1 ▸ filed.next_le
  isOpen := same.1 ▸ filed.isOpen
  linked := by
    rw [same.1, same.2]
    exact filed.linked

theorem filed_loop (filed : Filed base store) : Filed base (call.loop runtime store).store :=
  (always_of_step (P := fun progress : Progress => Filed base progress.store)
    (fun _ _ => filed_ingestRecord) filed call.deliveries).last

theorem filed_ingestCall (filed : Filed base store) :
    Filed base (ingestCall runtime store call) :=
  (filed_loop filed).congr findings_ingestCall

theorem allAlerted_ingestCall (filed : Filed base store) :
    AllAlerted base (ingestCall runtime store call) ↔
      AllAlerted base store ∧ NoneCutShort runtime store call := by
  have exact := after_iff_eachStep (I := fun progress => Filed base progress.store)
    (P := fun progress => AllAlerted base progress.store)
    (C := AttachedAtOnce runtime call.tenant)
    (ingestRecord runtime call.tenant call.asset call.now)
    (fun _ _ => filed_ingestRecord) (fun _ _ => allAlerted_ingestRecord)
    (Progress.start store call.report) filed call.deliveries
  rw [AllAlerted, findings_ingestCall.1]
  exact exact

theorem persistedFor_ingestCall (filed : Filed base store) :
    PersistedFor base owner (ingestCall runtime store call) ↔
      PersistedFor base owner store ∨ InsertsFor runtime owner store call := by
  have exact := after_iff_someStep (I := fun progress => Filed base progress.store)
    (P := fun progress => PersistedFor base owner progress.store)
    (C := fun progress delivery => call.tenant = owner ∧
      Inserts runtime call.tenant progress delivery)
    (ingestRecord runtime call.tenant call.asset call.now)
    (fun _ _ => filed_ingestRecord) (fun _ _ => persistedFor_ingestRecord)
    (Progress.start store call.report) filed call.deliveries
  rw [someStep_and_left] at exact
  rw [PersistedFor, findings_ingestCall.1]
  exact exact

theorem allStale_markSynthesisStale {tenant : Nat} :
    AllStale owner (markSynthesisStale store tenant) ↔ AllStale owner store ∨ tenant = owner := by
  simp only [AllStale, markSynthesisStale, Table.mem_updateWhere]
  constructor
  · intro all
    rw [or_iff_not_imp_right]
    intro apart synthesis member owned
    refine all synthesis ⟨synthesis, member, if_neg ?_⟩ owned
    simp only [Bool.and_eq_true, decide_eq_true_eq]
    exact fun marked => apart (marked.1.symm.trans owned)
  · rintro either _ ⟨row, member, rfl⟩ owned
    split
    · rfl
    · rename_i unmarked
      rw [if_neg unmarked] at owned
      rcases either with all | rfl
      · exact all row member owned
      · simpa [owned] using unmarked

theorem allStale_ingestCall :
    AllStale owner (ingestCall runtime store call) ↔
      AllStale owner store ∨ CompletesFor runtime owner store call := by
  have same : AllStale owner (call.loop runtime store).store ↔ AllStale owner store := by
    rw [AllStale, syntheses_loop, AllStale]
  rw [ingestCall_eq, CompletesFor, InsertsFor, ← created_loop, ← failure_loop, not_not]
  split
  · rename_i marks
    rw [allStale_markSynthesisStale, same]
    exact or_congr_right ⟨fun owned => ⟨⟨owned, marks.2.2⟩, marks.2.1, marks.1⟩, fun all => all.1.1⟩
  · rename_i passes
    rw [same, or_iff_left]
    rintro ⟨⟨_, created⟩, completed, marked⟩
    exact passes ⟨marked, completed, created⟩

end Calls

/-! ## Runs -/

section Runs

variable {runtime : Runtime} {base store : Store}

/-- Where every finding persisted since the base is filed, the promise comes
down to alerts that are named and syntheses that are stale. -/
theorem nothingLeftBehind_iff_of_filed (filed : Filed base store) :
    NothingLeftBehind base store ↔
      AllAlerted base store ∧
        ∀ tenant, PersistedFor base tenant store → AllStale tenant store := by
  constructor
  · intro nothing
    refine ⟨fun finding member persisted unalerted => ?_, ?_⟩
    · obtain ⟨alert, _, named, _⟩ := nothing.attached finding member persisted
        (filed.isOpen finding member persisted)
      rw [unalerted] at named
      cases named
    · rintro tenant ⟨finding, member, persisted, rfl⟩
      exact nothing.stale finding member persisted (filed.isOpen finding member persisted)
  · rintro ⟨alerted, stale⟩
    refine ⟨fun finding member persisted _ => ?_, fun finding member persisted _ =>
      stale finding.tenant ⟨finding, member, persisted, rfl⟩⟩
    obtain ⟨key, named⟩ := Option.ne_none_iff_exists'.mp (alerted finding member persisted)
    obtain ⟨alert, inside, rfl, isOpen⟩ := filed.linked finding member persisted key named
    exact ⟨alert, inside, named, isOpen⟩

/-- After any calls, interrupted wherever they may be, nothing is left behind
exactly where no inserted record is interrupted before it is attached and, for
every tenant with a finding inserted, the synthesis was stale from the start or
some call that inserts for the tenant meets no exception. -/
theorem nothing_left_behind_iff (runtime : Runtime) (base : Store) (calls : List IngestionCall) :
    NothingLeftBehind base (after (ingestCall runtime) base calls) ↔
      EachStep (ingestCall runtime) (NoneCutShort runtime) base calls ∧
        ∀ tenant, SomeStep (ingestCall runtime) (InsertsFor runtime tenant) base calls →
          AllStale tenant base ∨
            SomeStep (ingestCall runtime) (CompletesFor runtime tenant) base calls := by
  have filed : Filed base (after (ingestCall runtime) base calls) :=
    (always_of_step (fun _ _ => filed_ingestCall) (Filed.start base) calls).last
  have alerted := after_iff_eachStep (I := Filed base) (ingestCall runtime)
    (fun _ _ => filed_ingestCall) (fun _ _ => allAlerted_ingestCall) base (Filed.start base) calls
  have persisted (tenant : Nat) := after_iff_someStep (I := Filed base)
    (P := PersistedFor base tenant) (ingestCall runtime) (fun _ _ => filed_ingestCall)
    (fun _ _ => persistedFor_ingestCall) base (Filed.start base) calls
  have stale (tenant : Nat) := after_iff_someStep (I := Filed base) (P := AllStale tenant)
    (ingestCall runtime) (fun _ _ => filed_ingestCall) (fun _ _ _ => allStale_ingestCall) base
    (Filed.start base) calls
  have noneYet : AllAlerted base base := fun _ member persisted =>
    absurd persisted (not_persisted_start member)
  have nobodyYet (tenant : Nat) : ¬ PersistedFor base tenant base := by
    rintro ⟨_, member, persisted, _⟩
    exact not_persisted_start member persisted
  rw [nothingLeftBehind_iff_of_filed filed, alerted, and_iff_right noneYet]
  refine and_congr_right fun _ => forall_congr' fun tenant => ?_
  rw [persisted, or_iff_right (nobodyYet tenant), stale]

end Runs

/-! ## Payloads -/

/-- The calls a payload makes: those of its groups whose asset is known. -/
def Reception.calls (reception : Reception) (records : List (String × Delivery)) :
    List IngestionCall :=
  (byAssetRef records).filterMap fun group =>
    (reception.resolve group.1).map fun target => reception.call target group

theorem receiveGroup_of_raised {runtime : Runtime} {reception : Reception}
    {progress : WebhookProgress} (raised : progress.raised = true)
    (groups : List (String × List Delivery)) :
    after (receiveGroup runtime reception) progress groups = progress := by
  induction groups with
  | nil => rfl
  | cons group rest ih => rw [after_cons, receiveGroup, if_pos raised, ih]

section Lost

/-- A tenant without findings, whose synthesis is up to date. -/
def analysedStore : Store :=
  { findings := Table.empty
    alerts := Table.empty
    syntheses := Table.empty.create
      (fun key => { id := key, tenant := 1, content := "calme", generatedAt := 5,
                    isStale := false })
      (fun _ => rfl) }

def interruptedDelivery : IngestionCall :=
  { tenant := 1, asset := acmeSite, now := 10, report := ⟨[], [], []⟩
    deliveries := [⟨leakedCredential, "token", some .attachment⟩], markFails := false }

def secondDelivery : IngestionCall :=
  { interruptedDelivery with
    now := 20
    deliveries := [⟨leakedCredential, "token", none⟩] }

/-- The second delivery of an interrupted batch leaves its finding without alert
and the synthesis as it was. -/
theorem interrupted_delivery_left_behind :
    ¬ NothingLeftBehind analysedStore
      (after (ingestCall plainRuntime) analysedStore [interruptedDelivery, secondDelivery]) := by
  intro nothing
  have unattached : (after (ingestCall plainRuntime) analysedStore
      [interruptedDelivery, secondDelivery]).findings.rows.map BreachFinding.alert = [none] := by
    decide +kernel
  obtain ⟨finding, member, named⟩ : ∃ finding ∈ (after (ingestCall plainRuntime) analysedStore
      [interruptedDelivery, secondDelivery]).findings.rows, finding.alert = none := by
    have : none ∈ (after (ingestCall plainRuntime) analysedStore
        [interruptedDelivery, secondDelivery]).findings.rows.map BreachFinding.alert := by
      rw [unattached]
      exact List.mem_singleton_self none
    exact List.mem_map.mp this
  have filed : Filed analysedStore (after (ingestCall plainRuntime) analysedStore
      [interruptedDelivery, secondDelivery]) :=
    (always_of_step (fun _ _ => filed_ingestCall) (Filed.start analysedStore) _).last
  have persisted : Persisted analysedStore finding := Nat.zero_le _
  obtain ⟨alert, _, attached, _⟩ := nothing.attached finding member persisted
    (filed.isOpen finding member persisted)
  rw [named] at attached
  cases attached

end Lost

end RssiService.ThreatIntelligence
