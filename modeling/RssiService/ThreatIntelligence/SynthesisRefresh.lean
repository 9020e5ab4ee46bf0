import RssiService.ThreatIntelligence.Redelivery

/-!
# The cached synthesis of an exposure

A synthesis is written from the findings that are open when its context is read,
and cached, marked fresh, once the model has answered.  Ingestions and changes of
status mark it stale after the write that opens or closes a finding.  All of
them take their steps in any order.
-/

namespace RssiService.ThreatIntelligence

open Foundation Run
open Monitoring (Asset)

/-! ## The open findings of a client -/

def openFindingIds (store : Store) (tenant : Nat) : List Nat :=
  (store.findings.rows.filter fun row => row.tenant = tenant && row.status = .open).map
    BreachFinding.id

/-- `findings_fingerprint`. -/
def findingsFingerprint (runtime : Runtime) (store : Store) (tenant : Nat) : String :=
  hexdigest (runtime.sha256 (String.intercalate "|"
    ((openFindingIds store tenant).map fun id => s!"{id}:{FindingStatus.open.value}")))

/-! ## Requests under way -/

/-- What a client still has to do.  A batch keeps the results of its loop, a change
of status the copy of the row that it read, and a refresh the findings that its
context shows. -/
inductive SynthesisActivity where
  | idle
  | ingesting (tenant : Nat) (asset : Asset) (now : Nat) (progress : Progress)
      (rest : List Delivery)
  | closing (copy : BreachFinding) (status : FindingStatus) (user : Option Nat) (now : Nat)
  | marking (tenant : Nat)
  | refreshing (tenant : Nat)
  | generating (tenant : Nat) (basis : List Nat)
  | saving (tenant : Nat) (content : String) (basis : List Nat)
  | storing (tenant : Nat) (content : String) (basis : List Nat) (fingerprint : String)

inductive SynthesisRequest where
  | ingest (tenant : Nat) (asset : Asset) (now : Nat) (report : IngestionReport)
      (deliveries : List Delivery)
  | setStatus (tenant finding : Nat) (status : FindingStatus) (user : Option Nat) (now : Nat)
  | refresh (tenant : Nat)

/-- The tables, the fingerprint stored beside each synthesis, the findings that
each content was written from, and what is left of the requests. -/
structure SynthesisWorld where
  store : Store
  fingerprints : Nat → String
  generatedFrom : Nat → List Nat
  pending : Nat → SynthesisActivity

/-- A request comes in, takes a step (with what the model answers, if it is asked,
and the time), or is lost. -/
inductive SynthesisMoment where
  | arrive (client : Nat) (request : SynthesisRequest)
  | advance (client : Nat) (answer : Option String) (instant : Nat)
  | crash (client : Nat)

namespace SynthesisWorld

def start (store : Store) (fingerprints : Nat → String) (generatedFrom : Nat → List Nat) :
    SynthesisWorld :=
  ⟨store, fingerprints, generatedFrom, fun _ => .idle⟩

variable (runtime : Runtime) (world : SynthesisWorld)

def setPending (client : Nat) (activity : SynthesisActivity) : SynthesisWorld :=
  { world with pending := Function.update world.pending client activity }

/-- `save(update_fields=["status", "treated_by", "treated_at"])` of a copy. -/
def saveStatus (copy : BreachFinding) : SynthesisWorld :=
  { world with
    store := world.store.modifyFinding copy.id (fun row =>
      { row with
        status := copy.status
        treatedBy := copy.treatedBy
        treatedAt := copy.treatedAt }) fun _ => rfl }

/-- `update_or_create` of the synthesis of the client. -/
def saveSynthesis (tenant : Nat) (content : String) (basis : List Nat) (fingerprint : String)
    (now : Nat) : SynthesisWorld :=
  { world with
    store := { world.store with
      syntheses := world.store.syntheses.updateOrCreate (fun row => row.tenant = tenant)
        (fun row => { row with content, generatedAt := now, isStale := false }) (fun _ => rfl)
        (fun key => { id := key, tenant, content, generatedAt := now, isStale := false })
        fun _ => rfl }
    fingerprints := Function.update world.fingerprints tenant fingerprint
    generatedFrom := Function.update world.generatedFrom tenant basis }

/-- The first step of a request, which reads the row that it names. -/
def arriving : SynthesisRequest → SynthesisActivity
  | .ingest tenant asset now report deliveries =>
      .ingesting tenant asset now (Progress.start world.store report) deliveries
  | .setStatus tenant finding status user now =>
      match getFinding world.store tenant finding with
      | none => .idle
      | some copy => .closing copy status user now
  | .refresh tenant => .refreshing tenant

/-- The next step of a request: a record, a save, a mark, a read or the answer of
the model. -/
def advancing (client : Nat) (answer : Option String) (instant : Nat) : SynthesisWorld :=
  match world.pending client with
  | .idle => world
  | .ingesting tenant asset now progress (delivery :: rest) =>
      let progress := ingestRecord runtime tenant asset now { progress with store := world.store }
        delivery
      { world with store := progress.store }.setPending client
        (.ingesting tenant asset now progress rest)
  | .ingesting tenant _ _ progress [] =>
      world.setPending client
        (if progress.failure.isNone && progress.created ≠ [] then .marking tenant else .idle)
  | .closing copy status user now =>
      (world.saveStatus (copy.withStatus status user now)).setPending client (.marking copy.tenant)
  | .marking tenant =>
      { world with store := markSynthesisStale world.store tenant }.setPending client .idle
  | .refreshing tenant =>
      world.setPending client (.generating tenant (openFindingIds world.store tenant))
  | .generating tenant basis =>
      match answer with
      | none => world.setPending client .idle
      | some content => world.setPending client (.saving tenant content basis)
  | .saving tenant content basis =>
      world.setPending client
        (.storing tenant content basis (findingsFingerprint runtime world.store tenant))
  | .storing tenant content basis fingerprint =>
      (world.saveSynthesis tenant content basis fingerprint instant).setPending client .idle

def step (world : SynthesisWorld) : SynthesisMoment → SynthesisWorld
  | .arrive client request =>
      match world.pending client with
      | .idle => world.setPending client (world.arriving request)
      | _ => world
  | .advance client answer instant => world.advancing runtime client answer instant
  | .crash client => world.setPending client .idle

/-! ## A fresh synthesis shows the open findings -/

/-- The finding of the client is open. -/
def IsOpen (store : Store) (tenant id : Nat) : Prop :=
  ∃ finding ∈ store.findings, finding.id = id ∧ finding.tenant = tenant ∧ finding.status = .open

/-- The client has a synthesis that is not marked stale. -/
def HasFresh (store : Store) (tenant : Nat) : Prop :=
  ∃ synthesis ∈ store.syntheses, synthesis.tenant = tenant ∧ synthesis.isStale = false

/-- The findings that a content was written from are those that are open now. -/
def ShowsOpen (store : Store) (tenant : Nat) (basis : List Nat) : Prop :=
  ∀ id, id ∈ basis ↔ IsOpen store tenant id

/-- Every fresh synthesis was written from the findings that are open now. -/
def FreshIsCurrent (world : SynthesisWorld) : Prop :=
  ∀ tenant, HasFresh world.store tenant →
    ShowsOpen world.store tenant (world.generatedFrom tenant)

/-- A record is inserted, or the status of a finding opens or closes it, only where
its client has no fresh synthesis, and a synthesis is saved while the findings
that its context showed are still those that are open. -/
def TouchesNoFresh (world : SynthesisWorld) : SynthesisMoment → Prop
  | .advance client _ _ =>
      match world.pending client with
      | .ingesting tenant _ _ progress (delivery :: _) =>
          Inserts runtime tenant { progress with store := world.store } delivery →
            ¬HasFresh world.store tenant
      | .closing copy status _ _ =>
          ∀ row ∈ world.store.findings, row.id = copy.id → (row.status = .open ↔ status = .open) ∨
            ¬HasFresh world.store row.tenant
      | .storing tenant _ basis _ => ShowsOpen world.store tenant basis
      | _ => True
  | _ => True

theorem mem_openFindingIds {store : Store} {tenant id : Nat} :
    id ∈ openFindingIds store tenant ↔ IsOpen store tenant id := by
  simp only [openFindingIds, IsOpen, List.mem_map, List.mem_filter, Bool.and_eq_true,
    decide_eq_true_eq, Table.mem_def]
  refine exists_congr fun finding => ?_
  tauto

/-! ## What a step does to the open findings -/

section Steps

variable {runtime : Runtime} {store : Store} {tenant id now : Nat} {asset : Asset}
  {progress : Progress} {delivery : Delivery} {world : SynthesisWorld}

theorem isOpen_insertsNone {before after : Progress} (none : InsertsNone before after) :
    IsOpen after.store tenant id ↔ IsOpen before.store tenant id := by
  constructor
  · rintro ⟨later, member, key, mine, isOpen⟩
    obtain ⟨finding, old, same⟩ := none.old later member
    exact ⟨finding, old, same.id_eq.symm.trans key, same.tenant_eq.symm.trans mine,
      same.status_eq.symm.trans isOpen⟩
  · rintro ⟨finding, member, key, mine, isOpen⟩
    obtain ⟨later, new, same⟩ := none.kept finding member
    exact ⟨later, new, same.id_eq.trans key, same.tenant_eq.trans mine,
      same.status_eq.trans isOpen⟩

/-- An update of a row that keeps its client decides whether it is open. -/
theorem isOpen_modify {key : Nat} {change : BreachFinding → BreachFinding}
    {keeps : ∀ row, ident (change row) = ident row}
    (same_tenant : ∀ row, (change row).tenant = row.tenant) :
    IsOpen (store.modifyFinding key change keeps) tenant id ↔
      ∃ row ∈ store.findings, row.id = id ∧ row.tenant = tenant ∧
        (if row.id = key then change row else row).status = .open := by
  have sameRow (row : BreachFinding) : (if row.id = key then change row else row).id = row.id ∧
      (if row.id = key then change row else row).tenant = row.tenant := by
    split
    · exact ⟨keeps row, same_tenant row⟩
    · exact ⟨rfl, rfl⟩
  simp only [IsOpen, mem_modifyFinding]
  constructor
  · rintro ⟨_, ⟨row, member, rfl⟩, here, mine, isOpen⟩
    exact ⟨row, member, (sameRow row).1.symm.trans here, (sameRow row).2.symm.trans mine, isOpen⟩
  · rintro ⟨row, member, here, mine, isOpen⟩
    exact ⟨_, ⟨row, member, rfl⟩, (sameRow row).1.trans here, (sameRow row).2.trans mine, isOpen⟩

theorem isOpen_modify_of_status {key : Nat} {change : BreachFinding → BreachFinding}
    {keeps : ∀ row, ident (change row) = ident row}
    (same : ∀ row, (change row).tenant = row.tenant ∧ (change row).status = row.status) :
    IsOpen (store.modifyFinding key change keeps) tenant id ↔ IsOpen store tenant id := by
  rw [isOpen_modify fun row => (same row).1, IsOpen]
  refine exists_congr fun row => and_congr_right fun _ => and_congr_right fun _ =>
    and_congr_right fun _ => ?_
  split
  · rw [(same row).2]
  · exact Iff.rfl

theorem isOpen_raiseAlert {fault : Option Fault} {finding : BreachFinding} :
    IsOpen (raiseAlert asset now progress fault finding).store tenant id ↔
      IsOpen progress.store tenant id := by
  rw [raiseAlert]
  split
  · exact Iff.rfl
  · dsimp only
    split
    · exact Iff.rfl
    · refine Iff.trans (isOpen_modify_of_status ?_) Iff.rfl
      exact fun _ => ⟨rfl, rfl⟩

/-- An inserted record is open for its client. -/
theorem isOpen_insert {client : Nat} {normalized : NormalizedFinding}
    {secretEncrypted : Option String} :
    IsOpen (progress.insert client asset now normalized secretEncrypted).store tenant id ↔
      IsOpen progress.store tenant id ∨ (tenant = client ∧ id = progress.store.findings.next) := by
  simp only [IsOpen, Progress.insert, mem_insertFinding]
  constructor
  · rintro ⟨finding, old | rfl, here, mine, isOpen⟩
    · exact Or.inl ⟨finding, old, here, mine, isOpen⟩
    · exact Or.inr ⟨mine.symm, here.symm⟩
  · rintro (⟨finding, old, rest⟩ | ⟨rfl, rfl⟩)
    · exact ⟨finding, Or.inl old, rest⟩
    · exact ⟨_, Or.inr rfl, rfl, rfl, rfl⟩

theorem not_isOpen_next : ¬IsOpen store tenant store.findings.next := by
  rintro ⟨finding, member, here, _⟩
  exact Table.ne_next member here

/-- A record keeps a current synthesis current exactly where it is not inserted
for a client that has a fresh one. -/
theorem freshIsCurrent_record (current : world.FreshIsCurrent)
    (synced : progress.store = world.store) :
    { world with
      store := (ingestRecord runtime tenant asset now progress delivery).store }.FreshIsCurrent ↔
        (Inserts runtime tenant progress delivery → ¬HasFresh world.store tenant) := by
  have fresh (client : Nat) :
      HasFresh (ingestRecord runtime tenant asset now progress delivery).store client ↔
        HasFresh world.store client := by
    rw [HasFresh, HasFresh, syntheses_ingestRecord, synced]
  rcases ingestRecord_cases runtime tenant now asset progress delivery with
    ⟨passes, none⟩ | ⟨inserts, normalized, secretEncrypted, record⟩
  · refine iff_of_true ?_ fun inserts => absurd inserts passes
    intro client stands id
    change _ ↔ IsOpen (ingestRecord runtime tenant asset now progress delivery).store client id
    rw [isOpen_insertsNone none, synced]
    exact current client ((fresh client).mp stands) id
  · have opened (client id : Nat) :
        IsOpen (ingestRecord runtime tenant asset now progress delivery).store client id ↔
          IsOpen world.store client id ∨ (client = tenant ∧ id = world.store.findings.next) := by
      rw [record, isOpen_raiseAlert, isOpen_insert, synced]
    constructor
    · intro later _ stands
      have before := current tenant stands world.store.findings.next
      have after := later tenant ((fresh tenant).mpr stands) world.store.findings.next
      have now_open := (opened tenant world.store.findings.next).mpr (Or.inr ⟨rfl, rfl⟩)
      exact not_isOpen_next (before.mp (after.mpr now_open))
    · intro spares client stands id
      have apart : client ≠ tenant := by
        rintro rfl
        exact spares inserts ((fresh client).mp stands)
      refine (current client ((fresh client).mp stands) id).trans ?_
      refine ((opened client id).trans (or_iff_left ?_)).symm
      rintro ⟨same, _⟩
      exact apart same

theorem freshIsCurrent_saveStatus (current : world.FreshIsCurrent) (copy : BreachFinding) :
    (world.saveStatus copy).FreshIsCurrent ↔
      ∀ row ∈ world.store.findings, row.id = copy.id →
        (row.status = .open ↔ copy.status = .open) ∨ ¬HasFresh world.store row.tenant := by
  have saved (client id : Nat) : IsOpen (world.saveStatus copy).store client id ↔
      ∃ row ∈ world.store.findings, row.id = id ∧ row.tenant = client ∧
        (if row.id = copy.id then copy.status else row.status) = .open := by
    refine Iff.trans (isOpen_modify ?_) ?_
    · exact fun _ => rfl
    · refine exists_congr fun row => and_congr_right fun _ => and_congr_right fun _ =>
        and_congr_right fun _ => ?_
      split <;> exact Iff.rfl
  constructor
  · intro later row member here
    by_cases stands : HasFresh world.store row.tenant
    · left
      have before := current row.tenant stands row.id
      have after := later row.tenant stands row.id
      have was : IsOpen world.store row.tenant row.id ↔ row.status = .open := by
        constructor
        · rintro ⟨other, inside, same, _, isOpen⟩
          rwa [Table.ident_injective inside member same] at isOpen
        · intro isOpen
          exact ⟨row, member, rfl, rfl, isOpen⟩
      have is : IsOpen (world.saveStatus copy).store row.tenant row.id ↔ copy.status = .open := by
        rw [saved]
        constructor
        · rintro ⟨other, inside, same, _, isOpen⟩
          rwa [Table.ident_injective inside member same, if_pos here] at isOpen
        · intro isOpen
          exact ⟨row, member, rfl, rfl, by rwa [if_pos here]⟩
      exact was.symm.trans (before.symm.trans (after.trans is))
    · exact Or.inr stands
  · intro spares client stands id
    refine (current client stands id).trans ?_
    rw [saved, IsOpen]
    refine exists_congr fun row => and_congr_right fun member => and_congr_right fun _ =>
      and_congr_right fun mine => ?_
    split
    · rename_i here
      refine (spares row member here).resolve_right fun none => none ?_
      rwa [mine]
    · exact Iff.rfl

theorem freshIsCurrent_markStale (current : world.FreshIsCurrent) :
    { world with store := markSynthesisStale world.store tenant }.FreshIsCurrent := by
  rintro client ⟨synthesis, member, mine, fresh⟩ id
  simp only [markSynthesisStale, Table.mem_updateWhere] at member
  obtain ⟨row, inside, change⟩ := member
  refine current client ⟨row, inside, ?_⟩ id
  split at change
  · rw [← change] at fresh
    exact absurd fresh (by simp)
  · rw [change]
    exact ⟨mine, fresh⟩

theorem hasFresh_saveSynthesis {content fingerprint : String} {basis : List Nat} {instant : Nat}
    (client : Nat) :
    HasFresh (world.saveSynthesis tenant content basis fingerprint instant).store client ↔
      client = tenant ∨ HasFresh world.store client := by
  simp only [HasFresh, saveSynthesis]
  cases found : world.store.syntheses.rows.find? fun row => row.tenant = tenant with
  | none =>
      rw [Table.updateOrCreate_of_none found]
      simp only [Table.mem_create]
      constructor
      · rintro ⟨row, old | rfl, mine, fresh⟩
        · exact Or.inr ⟨row, old, mine, fresh⟩
        · exact Or.inl mine.symm
      · rintro (rfl | ⟨row, old, rest⟩)
        · exact ⟨_, Or.inr rfl, rfl, rfl⟩
        · exact ⟨row, Or.inl old, rest⟩
  | some first =>
      have member : first ∈ world.store.syntheses := List.mem_of_find?_eq_some found
      have own : first.tenant = tenant := by simpa using List.find?_some found
      rw [Table.updateOrCreate_of_some found]
      simp only [Table.mem_modify_of_mem member]
      constructor
      · rintro ⟨row, rfl | ⟨old, _⟩, mine, fresh⟩
        · exact Or.inl (mine.symm.trans own)
        · exact Or.inr ⟨row, old, mine, fresh⟩
      · rintro (rfl | ⟨row, old, mine, fresh⟩)
        · exact ⟨_, Or.inl rfl, own, rfl⟩
        · by_cases same : ident row = ident first
          · refine ⟨_, Or.inl rfl, ?_, rfl⟩
            rwa [← Table.ident_injective old member same]
          · exact ⟨row, Or.inr ⟨old, same⟩, mine, fresh⟩

theorem freshIsCurrent_saveSynthesis (current : world.FreshIsCurrent)
    (content fingerprint : String) {basis : List Nat} (instant : Nat) :
    (world.saveSynthesis tenant content basis fingerprint instant).FreshIsCurrent ↔
      ShowsOpen world.store tenant basis := by
  constructor
  · intro later
    have own := later tenant ((hasFresh_saveSynthesis tenant).mpr (Or.inl rfl))
    change ShowsOpen world.store tenant
      (Function.update world.generatedFrom tenant basis tenant) at own
    rwa [Function.update_self] at own
  · intro shows client stands
    change ShowsOpen world.store client (Function.update world.generatedFrom tenant basis client)
    by_cases mine : client = tenant
    · subst mine
      rwa [Function.update_self]
    · rw [Function.update_of_ne mine]
      exact current client (((hasFresh_saveSynthesis client).mp stands).resolve_left mine)

/-- One step keeps every fresh synthesis current exactly where it touches no fresh
one. -/
theorem freshIsCurrent_step_iff (runtime : Runtime) (world : SynthesisWorld)
    (moment : SynthesisMoment) (current : world.FreshIsCurrent) :
    (world.step runtime moment).FreshIsCurrent ↔ world.TouchesNoFresh runtime moment := by
  cases moment with
  | arrive client request =>
      refine iff_of_true ?_ trivial
      rw [step]
      split <;> exact current
  | crash client => exact iff_of_true current trivial
  | advance client answer instant =>
      rw [step, advancing, TouchesNoFresh]
      cases world.pending client with
      | idle => exact iff_of_true current trivial
      | ingesting tenant asset now progress rest =>
          cases rest with
          | nil => exact iff_of_true current trivial
          | cons delivery rest => exact freshIsCurrent_record current rfl
      | closing copy status user now => exact freshIsCurrent_saveStatus current _
      | marking tenant => exact iff_of_true (freshIsCurrent_markStale current) trivial
      | refreshing tenant => exact iff_of_true current trivial
      | generating tenant basis =>
          refine iff_of_true ?_ trivial
          cases answer <;> exact current
      | saving tenant content basis => exact iff_of_true current trivial
      | storing tenant content basis fingerprint =>
          exact freshIsCurrent_saveSynthesis current content fingerprint instant

end Steps

/-- Over every schedule, a fresh synthesis shows the open findings in every state
exactly where it does at first and no step touches a fresh one. -/
theorem fresh_is_current_iff (runtime : Runtime) (start : SynthesisWorld)
    (moments : List SynthesisMoment) :
    Always (step runtime) FreshIsCurrent start moments ↔
      start.FreshIsCurrent ∧ EachStep (step runtime) (TouchesNoFresh runtime) start moments :=
  always_iff_start_and_eachStep
    (fun world moment current => freshIsCurrent_step_iff runtime world moment current) start moments

/-! ## Requests that nothing interrupts -/

section Alone

variable {runtime : Runtime} {world : SynthesisWorld} {client : Nat}

/-- The records of a batch that nothing interrupts make up its loop. -/
theorem after_ingesting {tenant now : Nat} {asset : Asset} {progress : Progress}
    {deliveries : List Delivery} (synced : progress.store = world.store)
    (batch : world.pending client = .ingesting tenant asset now progress deliveries) :
    after (step runtime) world (List.replicate deliveries.length (.advance client none now)) =
      { world with
          store := (after (ingestRecord runtime tenant asset now) progress deliveries).store
        }.setPending client (.ingesting tenant asset now
          (after (ingestRecord runtime tenant asset now) progress deliveries) []) := by
  induction deliveries generalizing world progress with
  | nil =>
      rw [List.length_nil, List.replicate_zero, after_nil, after_nil, setPending, ← batch,
        Function.update_eq_self, synced]
  | cons delivery rest ih =>
      have same : { progress with store := world.store } = progress := by rw [← synced]
      have one : step runtime world (.advance client none now) =
          { world with store := (ingestRecord runtime tenant asset now progress delivery).store
            }.setPending client (.ingesting tenant asset now
              (ingestRecord runtime tenant asset now progress delivery) rest) := by
        rw [step, advancing, batch]
        simp only [same]
      rw [List.length_cons, List.replicate_succ, after_cons, one, ih rfl (Function.update_self ..)]
      simp only [setPending, Function.update_idem, after_cons]

/-- A batch that nothing interrupts leaves what the ingestion of the batch leaves. -/
theorem alone_ingest {tenant now : Nat} {asset : Asset} {report : IngestionReport}
    {deliveries : List Delivery} (idle : world.pending client = .idle) :
    (after (step runtime) world
        (.arrive client (.ingest tenant asset now report deliveries) ::
          List.replicate deliveries.length (.advance client none now) ++
          [.advance client none now, .advance client none now])).store =
      (ingestRawFindings runtime tenant asset now report deliveries world.store).store := by
  have arrived : step runtime world (.arrive client (.ingest tenant asset now report deliveries)) =
      world.setPending client
        (.ingesting tenant asset now (Progress.start world.store report) deliveries) := by
    rw [step, idle]
    rfl
  have looped : after (step runtime) (world.setPending client
      (.ingesting tenant asset now (Progress.start world.store report) deliveries))
      (List.replicate deliveries.length (.advance client none now)) = _ :=
    after_ingesting rfl (Function.update_self ..)
  rw [List.cons_append, after_cons, arrived, after_append, looped, ingestRawFindings]
  generalize after (ingestRecord runtime tenant asset now) (Progress.start world.store report)
    deliveries = ended
  simp only [after_cons, after_nil, step, advancing, setPending, Function.update_self]
  cases marks : ended.failure.isNone && decide (ended.created ≠ []) with
  | true => simp only [if_true]
  | false => simp only [Bool.false_eq_true, if_false]

theorem store_saveStatus {copy : BreachFinding} (member : copy ∈ world.store.findings)
    (status : FindingStatus) (user : Option Nat) (now : Nat) :
    (world.saveStatus (copy.withStatus status user now)).store =
      world.store.modifyFinding copy.id (BreachFinding.withStatus status user now)
        (fun _ => rfl) := by
  refine congrArg (fun findings => { world.store with findings }) (Table.modify_congr ?_)
  intro row inside own
  rw [Table.ident_injective inside member own]
  rfl

/-- A change of status that nothing interrupts is the one that closes and marks at once. -/
theorem alone_setStatus {tenant finding now : Nat} {status : FindingStatus} {user : Option Nat}
    (idle : world.pending client = .idle) :
    (after (step runtime) world [.arrive client (.setStatus tenant finding status user now),
        .advance client none now, .advance client none now]).store =
      ThreatIntelligence.step runtime world.store (.setStatus tenant finding status user now) := by
  have arrived : step runtime world (.arrive client (.setStatus tenant finding status user now)) =
      world.setPending client (world.arriving (.setStatus tenant finding status user now)) := by
    rw [step, idle]
  rw [after_cons, arrived, arriving, ThreatIntelligence.step]
  cases found : getFinding world.store tenant finding with
  | none => simp only [after_cons, after_nil, step, advancing, setPending, Function.update_self]
  | some copy =>
      have saved : (world.saveStatus (copy.withStatus status user now)).store = _ :=
        store_saveStatus (getFinding_eq_some.mp found).1 status user now
      simp only [after_cons, after_nil, step, advancing, setPending, Function.update_self,
        setFindingStatus]
      exact congrArg (fun store => markSynthesisStale store copy.tenant) saved

end Alone

end SynthesisWorld

/-! ## A finding treated while the model answers -/

section TreatedMeanwhile

open SynthesisWorld

/-- A leak is ingested; a refresh reads its context; the leak is treated, and the
synthesis marked stale; then the answer comes and is cached. -/
def treatedMeanwhile : List SynthesisMoment :=
  .arrive 0 (.ingest 1 acmeSite 10 ⟨[], [], []⟩ [⟨leakedCredential, "token", none⟩]) ::
    List.replicate 3 (.advance 0 none 10) ++
    [.arrive 1 (.refresh 1), .advance 1 none 20] ++
    .arrive 0 (.setStatus 1 0 .treated (some 7) 30) :: List.replicate 2 (.advance 0 none 30) ++
    List.replicate 3 (.advance 1 (some "Un mot de passe circule.") 40)

def unexposed : SynthesisWorld :=
  .start ⟨Table.empty, Table.empty, Table.empty⟩ (fun _ => "") fun _ => []

theorem treated_finding_still_shown :
    ¬Always (SynthesisWorld.step plainRuntime) FreshIsCurrent unexposed treatedMeanwhile := by
  intro always
  have cached : (after (SynthesisWorld.step plainRuntime) unexposed
      treatedMeanwhile).store.syntheses.rows.any
        (fun row => row.tenant = 1 && !row.isStale) = true := by
    decide +kernel
  have basis : (after (SynthesisWorld.step plainRuntime) unexposed
      treatedMeanwhile).generatedFrom 1 = [0] := by
    decide +kernel
  have nothing : openFindingIds (after (SynthesisWorld.step plainRuntime) unexposed
      treatedMeanwhile).store 1 = [] := by
    decide +kernel
  obtain ⟨row, member, fresh⟩ := List.any_eq_true.mp cached
  have shown := always.last 1 ⟨row, member, by simpa using fresh⟩ 0
  rw [basis, ← mem_openFindingIds, nothing] at shown
  exact List.not_mem_nil (shown.mp List.mem_cons_self)

end TreatedMeanwhile

end RssiService.ThreatIntelligence
