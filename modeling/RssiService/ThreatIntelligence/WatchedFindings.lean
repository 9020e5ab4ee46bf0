import RssiService.Foundation.FirstHolder
import RssiService.ThreatIntelligence.Ingestion
import RssiService.ThreatIntelligence.WatchedAccounts

/-!
# Findings on watched accounts

What the provider returns for a watched account is stored once for the client,
under the account that brought it first.  An account is removed by a mark on its
row and declared again as a new row, while the findings stay where they are.
-/

namespace RssiService.ThreatIntelligence

open Foundation Run Python FirstHolder

/-! ## Rows -/

/-- A watched account with the marks of its scans and of its removal. -/
structure WatchedAccountRecord extends WatchedAccount where
  firstScannedAt : Option Nat
  lastScannedAt : Option Nat
  removedAt : Option Nat
  removedBy : Option Nat
  removalReason : String
  deriving DecidableEq, Repr

instance : Identified WatchedAccountRecord := ⟨fun record => record.id⟩

inductive WatchedFindingStatus where
  | open
  | treated
  | ignored
  deriving DecidableEq, Repr

structure WatchedAccountFinding where
  id : Nat
  tenant : Nat
  account : Nat
  sourceEndpoint : SourceEndpoint
  findingType : String
  severity : Severity
  status : WatchedFindingStatus
  identifierMasked : String
  secretMasked : String
  hasSecret : Bool
  breachDate : Option Date
  detectedAt : Nat
  lastSeenAt : Option Nat
  treatedAt : Option Nat
  fromFirstScan : Bool
  rawData : Json
  dedupHash : String

instance : Identified WatchedAccountFinding := ⟨WatchedAccountFinding.id⟩

inductive DeclarationRefusal where
  | account (error : WatchedAccountError)
  | entitlement (error : Billing.EntitlementError)

/-- What a list of results is narrowed to. -/
structure WatchedFindingFilters where
  account : Option Nat
  status : Option WatchedFindingStatus
  severity : Option Severity
  findingType : Option String
  since : Option Date
  search : Option String

/-- The results of one account. -/
def WatchedFindingFilters.ofAccount (account : Nat) : WatchedFindingFilters :=
  ⟨some account, none, none, none, none, none⟩

/-- What comes of the query for one account: an error, or records, all of which
are ingested or only those before an error. -/
inductive ProviderAnswer where
  | unavailable
  | answered (findings : List RawFinding) (requests now : Nat)
  | interrupted (findings : List RawFinding) (requests now : Nat)

/-- The records that are ingested. -/
def ProviderAnswer.ingested : ProviderAnswer → List RawFinding
  | .unavailable => []
  | .answered raws _ _ | .interrupted raws _ _ => raws

/-- The counts of a scan under way. -/
structure ScanTally where
  created : Nat
  seenAgain : Nat
  requests : Nat
  failed : List String

structure WatchedScanReport where
  findingsCreated : Nat
  findingsSeenAgain : Nat
  requestsConsumed : Nat
  accountsScanned : Nat
  accountsFailed : Nat

/-- What the table keeps unique: the client and the hash of the finding. -/
def WatchedAccountFinding.key (finding : WatchedAccountFinding) : Nat × String :=
  (finding.tenant, finding.dedupHash)

/-- A known finding is only seen again. -/
def WatchedAccountFinding.seenAt (now : Nat) (finding : WatchedAccountFinding) :
    WatchedAccountFinding :=
  { finding with lastSeenAt := some now }

def WatchedAccountFinding.withStatus (status : WatchedFindingStatus) (now : Nat)
    (finding : WatchedAccountFinding) : WatchedAccountFinding :=
  { finding with
    status
    treatedAt := if status = .treated then some now else none }

/-- The tables, and the constraint that a finding is stored once for its client. -/
structure WatchedStore where
  billing : Billing.Store
  accounts : Table WatchedAccountRecord
  findings : Table WatchedAccountFinding
  unique : findings.rows.Pairwise fun first second => first.key ≠ second.key

namespace WatchedStore

def empty (billing : Billing.Store) : WatchedStore := ⟨billing, Table.empty, Table.empty, .nil⟩

/-- The account that holds the finding of a client, by the hash of the finding. -/
def holders (store : WatchedStore) (key : Nat × String) : Option Nat :=
  (store.findings.rows.find? fun finding => finding.key = key).map WatchedAccountFinding.account

def insertFinding (store : WatchedStore) (build : Nat → WatchedAccountFinding)
    (ident_build : ∀ key, ident (build key) = key)
    (fresh : ∀ finding ∈ store.findings.rows, finding.key ≠ (build store.findings.next).key) :
    WatchedStore :=
  { store with
    findings := store.findings.create build ident_build
    unique := by
      refine List.pairwise_append.mpr ⟨store.unique, List.pairwise_singleton _ _, ?_⟩
      intro finding member last isLast
      rw [List.mem_singleton.mp isLast]
      exact fresh finding member }

def modifyFinding (store : WatchedStore) (finding : Nat)
    (change : WatchedAccountFinding → WatchedAccountFinding)
    (keeps : ∀ row, ident (change row) = ident row)
    (keeps_key : ∀ row, (change row).key = row.key) : WatchedStore :=
  { store with
    findings := store.findings.modify finding change keeps
    unique := by
      have same (row : WatchedAccountFinding) :
          (if ident row == finding then change row else row).key = row.key := by
        split
        · exact keeps_key row
        · rfl
      refine List.pairwise_map.mpr (store.unique.imp ?_)
      intro first second apart
      rwa [same, same] }

def modifyAccount (store : WatchedStore) (account : Nat)
    (change : WatchedAccountRecord → WatchedAccountRecord)
    (keeps : ∀ row, ident (change row) = ident row) : WatchedStore :=
  { store with accounts := store.accounts.modify account change keeps }

/-! ## Declaring and removing -/

def watchedAccounts (store : WatchedStore) : Table WatchedAccount :=
  store.accounts.mapRows WatchedAccountRecord.toWatchedAccount fun _ => rfl

def declareWatchedAccount (unicode : Unicode) (store : WatchedStore) (tenant : Nat)
    (declaration : Declaration) : Except DeclarationRefusal WatchedStore :=
  match declaration.check unicode with
  | .error error => .error (.account error)
  | .ok () =>
      match store.billing.ensureWatchedAccountQuota tenant
          (watchedCount store.watchedAccounts tenant) with
      | .error error => .error (.entitlement error)
      | .ok () =>
          if isDeclarable store.watchedAccounts tenant
              (normalizeAccountValue unicode declaration.value) then
            .ok { store with
              accounts := store.accounts.create (fun key =>
                { declaration.row unicode tenant key with
                  firstScannedAt := none
                  lastScannedAt := none
                  removedAt := none
                  removedBy := none
                  removalReason := "" }) fun _ => rfl }
          else .error (.account (.refused "Ce compte est déjà surveillé."))

def getWatchedAccount (store : WatchedStore) (tenant account : Nat) :
    Option WatchedAccountRecord :=
  (store.accounts.find? account).filter fun row => row.tenant = tenant

def removeWatchedAccount (store : WatchedStore) (account : WatchedAccountRecord) (now : Nat)
    (user : Option Nat) (reason : String) : WatchedStore :=
  if !account.isActive then store
  else
    store.modifyAccount account.id (fun row =>
      { row with
        isActive := false
        removedAt := some now
        removedBy := user
        removalReason := takeChars reason 200 }) fun _ => rfl

/-! ## Results -/

/-- `Q(account__value__icontains) | Q(account__label__icontains)`. -/
def matchesSearch (unicode : Unicode) (store : WatchedStore) (account : Nat) (search : String) :
    Bool :=
  (store.accounts.find? account).any fun row =>
    contains (unicode.lower row.value) (unicode.lower search) ||
      contains (unicode.lower row.label) (unicode.lower search)

/-- The latest leak first, those without a date last, then the latest detection. -/
def latestLeakFirst (first second : WatchedAccountFinding) : Bool :=
  match first.breachDate, second.breachDate with
  | some leaked, some other =>
      other.ordinal < leaked.ordinal ||
        leaked.ordinal = other.ordinal && second.detectedAt ≤ first.detectedAt
  | some _, none => true
  | none, some _ => false
  | none, none => second.detectedAt ≤ first.detectedAt

def listWatchedAccountFindings (unicode : Unicode) (store : WatchedStore) (tenant : Nat)
    (filters : WatchedFindingFilters) : List WatchedAccountFinding :=
  (store.findings.rows.filter fun row =>
    row.tenant = tenant &&
      filters.account.all (fun account => row.account = account) &&
      filters.status.all (fun status => row.status = status) &&
      filters.severity.all (fun severity => row.severity = severity) &&
      filters.findingType.all (fun type => row.findingType = type) &&
      filters.since.all (fun since => row.breachDate.any fun leaked =>
        since.ordinal ≤ leaked.ordinal) &&
      filters.search.all (matchesSearch unicode store row.account)).mergeSort latestLeakFirst

def getWatchedAccountFinding (store : WatchedStore) (tenant finding : Nat) :
    Option WatchedAccountFinding :=
  (store.findings.find? finding).filter fun row => row.tenant = tenant

def updateWatchedAccountFindingStatus (store : WatchedStore) (finding : WatchedAccountFinding)
    (status : WatchedFindingStatus) (now : Nat) : WatchedStore :=
  store.modifyFinding finding.id (WatchedAccountFinding.withStatus status now) (fun _ => rfl)
    fun _ => rfl

/-! ## Scanning -/

/-- The row a record is stored as. -/
def newWatchedFinding (account : WatchedAccountRecord) (tenant now : Nat)
    (normalized : NormalizedFinding) (key : Nat) : WatchedAccountFinding where
  id := key
  tenant
  account := account.id
  sourceEndpoint := normalized.sourceEndpoint
  findingType := normalized.findingType
  severity := normalized.severity
  status := .open
  identifierMasked := normalized.identifierMasked
  secretMasked := normalized.secretMasked
  hasSecret := normalized.hasSecret
  breachDate := normalized.breachDate
  detectedAt := now
  lastSeenAt := some now
  treatedAt := none
  fromFirstScan := account.firstScannedAt.isNone
  rawData := normalized.rawData
  dedupHash := normalized.dedupHash

/-- `get_or_create` on the key of the finding. -/
def ingestWatchedRecord (runtime : Runtime) (tenant : Nat) (account : WatchedAccountRecord)
    (now : Nat) (state : WatchedStore × Nat × Nat) (raw : RawFinding) : WatchedStore × Nat × Nat :=
  let (store, created, seenAgain) := state
  if raw.isTest then state
  else
    let normalized := normalizeFinding runtime raw.endpoint raw.payload
    match known : store.findings.rows.find? fun row => row.key = (tenant, normalized.dedupHash) with
    | some finding =>
        (store.modifyFinding finding.id (WatchedAccountFinding.seenAt now) (fun _ => rfl)
          fun _ => rfl, created, seenAgain + 1)
    | none =>
        (store.insertFinding (newWatchedFinding account tenant now normalized) (fun _ => rfl)
          (by simpa [newWatchedFinding, WatchedAccountFinding.key] using known),
          created + 1, seenAgain)

def ingestWatched (runtime : Runtime) (store : WatchedStore) (tenant : Nat)
    (account : WatchedAccountRecord) (now : Nat) (raws : List RawFinding) :
    WatchedStore × Nat × Nat :=
  raws.foldl (ingestWatchedRecord runtime tenant account now) (store, 0, 0)

/-- The mark of a first scan, which only a whole ingestion sets. -/
def markFirstScan (store : WatchedStore) (account : WatchedAccountRecord) (now : Nat) :
    WatchedStore :=
  if account.firstScannedAt.isNone then
    store.modifyAccount account.id (fun row => { row with firstScannedAt := some now }) fun _ => rfl
  else store

/-- One turn of the loop over the accounts, with what was read of them before it. -/
def scanWatchedAccount (runtime : Runtime) (tenant now : Nat) (answers : Nat → ProviderAnswer)
    (state : WatchedStore × ScanTally) (account : WatchedAccountRecord) :
    WatchedStore × ScanTally :=
  let (store, tally) := state
  match answers account.id with
  | .unavailable => (store, { tally with failed := tally.failed ++ [account.value] })
  | .interrupted raws requests ingestedAt =>
      let (store, _, _) := ingestWatched runtime store tenant account ingestedAt raws
      (store, { tally with
        requests := tally.requests + requests
        failed := tally.failed ++ [account.value] })
  | .answered raws requests ingestedAt =>
      let (store, created, seenAgain) := ingestWatched runtime store tenant account ingestedAt raws
      ((store.markFirstScan account ingestedAt).modifyAccount account.id
          (fun row => { row with lastScannedAt := some now }) fun _ => rfl,
        { tally with
          created := tally.created + created
          seenAgain := tally.seenAgain + seenAgain
          requests := tally.requests + requests })

def scanWatchedAccounts (runtime : Runtime) (tenant now : Nat) (answers : Nat → ProviderAnswer)
    (store : WatchedStore) (accounts : List WatchedAccountRecord) : WatchedStore × ScanTally :=
  accounts.foldl (scanWatchedAccount runtime tenant now answers) (store, ⟨0, 0, 0, []⟩)

/-- The accounts to scan: those asked for, or all, among the active ones. -/
def resolveScanTargets (store : WatchedStore) (tenant : Nat) (accountIds : List Nat) :
    List WatchedAccountRecord :=
  store.accounts.rows.filter fun row =>
    row.tenant = tenant && row.isActive && (accountIds.isEmpty || row.id ∈ accountIds)

def executeWatchedAccountScan (runtime : Runtime) (store : WatchedStore) (tenant now : Nat)
    (accounts : List WatchedAccountRecord) (answers : Nat → ProviderAnswer) :
    WatchedStore × Except WatchedAccountError WatchedScanReport :=
  let (store, tally) := store.scanWatchedAccounts runtime tenant now answers accounts
  if tally.failed ≠ [] ∧ tally.created = 0 ∧ tally.failed.length = accounts.length then
    (store, .error (.refused "Analyse impossible pour les comptes demandés."))
  else
    (store, .ok
      { findingsCreated := tally.created
        findingsSeenAgain := tally.seenAgain
        requestsConsumed := tally.requests
        accountsScanned := accounts.length - tally.failed.length
        accountsFailed := tally.failed.length })

end WatchedStore

/-! ## What happens to a client's accounts -/

inductive WatchedEvent where
  | declare (tenant : Nat) (declaration : Declaration)
  | remove (tenant account now : Nat) (user : Option Nat) (reason : String)
  | scan (tenant now : Nat) (accountIds : List Nat) (answers : Nat → ProviderAnswer)
  | setStatus (tenant finding : Nat) (status : WatchedFindingStatus) (now : Nat)
  | changeOffer (billing : Billing.Store)

def WatchedStore.step (runtime : Runtime) (store : WatchedStore) : WatchedEvent → WatchedStore
  | .declare tenant declaration =>
      match store.declareWatchedAccount runtime.unicode tenant declaration with
      | .ok after => after
      | .error _ => store
  | .remove tenant account now user reason =>
      match store.getWatchedAccount tenant account with
      | none => store
      | some account => store.removeWatchedAccount account now user reason
  | .scan tenant now accountIds answers =>
      (store.executeWatchedAccountScan runtime tenant now
        (store.resolveScanTargets tenant accountIds) answers).1
  | .setStatus tenant finding status now =>
      match store.getWatchedAccountFinding tenant finding with
      | none => store
      | some finding => store.updateWatchedAccountFindingStatus finding status now
  | .changeOffer billing => { store with billing }

/-! ## Who holds a finding -/

/-- The finding is stored in one row of the client. -/
def WatchedStore.StoredOnce (store : WatchedStore) (tenant : Nat) (hash : String) : Prop :=
  store.findings.rows.countP (fun row => row.key = (tenant, hash)) = 1

/-- The results of the account show the finding. -/
def WatchedStore.Shows (unicode : Unicode) (store : WatchedStore) (tenant account : Nat)
    (hash : String) : Prop :=
  ∃ finding ∈ store.listWatchedAccountFindings unicode tenant (.ofAccount account),
    finding.dedupHash = hash

/-- Another account of the client has the finding. -/
def WatchedStore.HeldElsewhere (store : WatchedStore) (tenant account : Nat) (hash : String) :
    Prop :=
  ∃ finding ∈ store.findings.rows, finding.key = (tenant, hash) ∧ finding.account ≠ account

section Holders

variable {runtime : Runtime} {store : WatchedStore} {tenant now account : Nat} {key : Nat × String}

/-- The keys of the records that a scan stores. -/
def recordKeys (runtime : Runtime) (tenant : Nat) (raws : List RawFinding) :
    List (Nat × String) :=
  (raws.filter fun raw => !raw.isTest).map fun raw =>
    (tenant, (normalizeFinding runtime raw.endpoint raw.payload).dedupHash)

theorem mem_recordKeys (runtime : Runtime) (tenant : Nat) {raws : List RawFinding}
    {raw : RawFinding} (member : raw ∈ raws)
    (real : raw.isTest = false) :
    (tenant, (normalizeFinding runtime raw.endpoint raw.payload).dedupHash) ∈
      recordKeys runtime tenant raws := by
  refine List.mem_map.mpr ⟨raw, List.mem_filter.mpr ⟨member, ?_⟩, rfl⟩
  rw [real]
  rfl

theorem holders_eq_none :
    store.holders key = none ↔ ∀ finding ∈ store.findings.rows, finding.key ≠ key := by
  simp [WatchedStore.holders, List.find?_eq_none]

theorem eq_of_key {first second : WatchedAccountFinding} (inFirst : first ∈ store.findings.rows)
    (inSecond : second ∈ store.findings.rows) (same : first.key = second.key) : first = second := by
  have distinct : (store.findings.rows.map WatchedAccountFinding.key).Nodup :=
    List.pairwise_map.mpr store.unique
  exact List.inj_on_of_nodup_map distinct inFirst inSecond same

theorem holders_eq_some :
    store.holders key = some account ↔
      ∃ finding ∈ store.findings.rows, finding.key = key ∧ finding.account = account := by
  rw [WatchedStore.holders, Option.map_eq_some_iff]
  constructor
  · rintro ⟨finding, found, same⟩
    have here := List.find?_some found
    exact ⟨finding, List.mem_of_find?_eq_some found, by simpa using here, same⟩
  · rintro ⟨finding, member, here, same⟩
    cases found : store.findings.rows.find? fun row => row.key = key with
    | none => exact absurd here (by simpa using List.find?_eq_none.mp found finding member)
    | some first =>
        have first_key : first.key = key := by simpa using List.find?_some found
        have one := eq_of_key (List.mem_of_find?_eq_some found) member (first_key.trans here.symm)
        exact ⟨first, rfl, by rw [one, same]⟩

/-- A held finding is stored in one row. -/
theorem storedOnce_of_holder {hash : String} (held : store.holders (tenant, hash) = some account) :
    store.StoredOnce tenant hash := by
  obtain ⟨finding, member, here, _⟩ := holders_eq_some.mp held
  have distinct : (store.findings.rows.map WatchedAccountFinding.key).Nodup :=
    List.pairwise_map.mpr store.unique
  have once := List.count_eq_one_of_mem distinct (List.mem_map_of_mem member)
  rw [here, List.count, List.countP_map] at once
  rw [WatchedStore.StoredOnce, ← once]
  exact List.countP_congr fun row _ => by simp

/-- The list of an account shows the findings that it holds. -/
theorem shows_iff {unicode : Unicode} {hash : String} :
    store.Shows unicode tenant account hash ↔ store.holders (tenant, hash) = some account := by
  rw [holders_eq_some]
  refine exists_congr fun finding => ?_
  simp [WatchedStore.listWatchedAccountFindings, WatchedFindingFilters.ofAccount,
    WatchedAccountFinding.key]
  tauto

theorem holders_modifyFinding {finding : Nat}
    {change : WatchedAccountFinding → WatchedAccountFinding}
    {keeps : ∀ row, ident (change row) = ident row} {keeps_key : ∀ row, (change row).key = row.key}
    (keeps_account : ∀ row, (change row).account = row.account) :
    (store.modifyFinding finding change keeps keeps_key).holders = store.holders := by
  funext key
  change ((store.findings.updateWhere _ change keeps).rows.find? _).map _ = _
  rw [Table.search_updateWhere _ fun row => by rw [keeps_key], Option.map_map]
  refine congrArg (Option.map · _) ?_
  funext row
  change (if ident row == finding then change row else row).account = row.account
  split
  · exact keeps_account row
  · rfl

theorem holders_insertFinding {build : Nat → WatchedAccountFinding}
    {ident_build : ∀ key, ident (build key) = key}
    (fresh : ∀ finding ∈ store.findings.rows, finding.key ≠ (build store.findings.next).key) :
    (store.insertFinding build ident_build fresh).holders =
      register store.holders (build store.findings.next).account
        (build store.findings.next).key := by
  funext key
  have unheld := holders_eq_none.mpr fresh
  change ((store.findings.rows ++ [build store.findings.next]).find? _).map _ = _
  rw [register_apply, unheld, List.find?_append, Option.map_or]
  by_cases same : key = (build store.findings.next).key
  · have before : (store.findings.rows.find? fun row => row.key = key).map
        WatchedAccountFinding.account = none := by
      rw [same]
      exact unheld
    rw [before, if_pos same]
    simp [same]
  · have other : (build store.findings.next).key ≠ key := fun equal => same equal.symm
    rw [if_neg same]
    simp [other, WatchedStore.holders]

theorem holders_ingestWatchedRecord {record : WatchedAccountRecord}
    {state : WatchedStore × Nat × Nat} {raw : RawFinding} :
    (WatchedStore.ingestWatchedRecord runtime tenant record now state raw).1.holders =
      registerAll state.1.holders record.id (recordKeys runtime tenant [raw]) := by
  obtain ⟨store, created, seenAgain⟩ := state
  cases test : raw.isTest with
  | true => simp [WatchedStore.ingestWatchedRecord, recordKeys, registerAll, test]
  | false =>
      have keys : recordKeys runtime tenant [raw] =
          [(tenant, (normalizeFinding runtime raw.endpoint raw.payload).dedupHash)] := by
        simp [recordKeys, test]
      rw [keys, registerAll, List.foldl_cons, List.foldl_nil]
      simp only [WatchedStore.ingestWatchedRecord, test, Bool.false_eq_true, if_false]
      split
      · rename_i finding known
        have held : store.holders
            (tenant, (normalizeFinding runtime raw.endpoint raw.payload).dedupHash) =
              some finding.account := by
          rw [WatchedStore.holders, known, Option.map_some]
        have kept : (store.modifyFinding finding.id (WatchedAccountFinding.seenAt now)
            (fun _ => rfl) fun _ => rfl).holders = store.holders := by
          refine holders_modifyFinding ?_
          exact fun _ => rfl
        rw [kept, register, held, Option.getD_some, ← held, Function.update_eq_self]
      · rename_i known
        refine holders_insertFinding ?_
        simpa [WatchedStore.newWatchedFinding, WatchedAccountFinding.key] using known

/-- The records of a scan register for its account, whoever holds them already. -/
theorem holders_ingestWatched {record : WatchedAccountRecord} (raws : List RawFinding) :
    (store.ingestWatched runtime tenant record now raws).1.holders =
      registerAll store.holders record.id (recordKeys runtime tenant raws) := by
  suffices fold : ∀ state : WatchedStore × Nat × Nat,
      (raws.foldl (WatchedStore.ingestWatchedRecord runtime tenant record now) state).1.holders =
        registerAll state.1.holders record.id (recordKeys runtime tenant raws) from fold _
  induction raws with
  | nil => exact fun _ => rfl
  | cons raw rest ih =>
      intro state
      have split : recordKeys runtime tenant (raw :: rest) =
          recordKeys runtime tenant [raw] ++ recordKeys runtime tenant rest := by
        rw [recordKeys, ← List.singleton_append, List.filter_append, List.map_append]
        rfl
      rw [List.foldl_cons, ih, holders_ingestWatchedRecord, split, registerAll, registerAll,
        registerAll, List.foldl_append]

theorem holders_markFirstScan {record : WatchedAccountRecord} :
    (store.markFirstScan record now).holders = store.holders := by
  rw [WatchedStore.markFirstScan]
  split <;> rfl

theorem holders_scanWatchedAccount {answers : Nat → ProviderAnswer}
    {state : WatchedStore × ScanTally} {record : WatchedAccountRecord} :
    (WatchedStore.scanWatchedAccount runtime tenant now answers state record).1.holders =
      registerAll state.1.holders record.id
        (recordKeys runtime tenant (answers record.id).ingested) := by
  obtain ⟨store, tally⟩ := state
  rw [WatchedStore.scanWatchedAccount]
  cases answers record.id with
  | unavailable => rfl
  | interrupted raws requests ingestedAt => exact holders_ingestWatched raws
  | answered raws requests ingestedAt =>
      exact holders_markFirstScan.trans (holders_ingestWatched raws)

theorem extends_foldl {answers : Nat → ProviderAnswer} (records : List WatchedAccountRecord)
    (state : WatchedStore × ScanTally) :
    Extends state.1.holders
      (records.foldl (WatchedStore.scanWatchedAccount runtime tenant now answers)
        state).1.holders := by
  induction records generalizing state with
  | nil => exact Extends.refl _
  | cons record rest ih =>
      have first := extends_registerAll state.1.holders record.id
        (recordKeys runtime tenant (answers record.id).ingested)
      rw [← holders_scanWatchedAccount] at first
      exact first.trans (ih _)

theorem executed {records : List WatchedAccountRecord} {answers : Nat → ProviderAnswer} :
    (store.executeWatchedAccountScan runtime tenant now records answers).1 =
      (store.scanWatchedAccounts runtime tenant now answers records).1 := by
  rw [WatchedStore.executeWatchedAccountScan]
  simp only
  split <;> rfl

theorem extends_scanWatchedAccounts {answers : Nat → ProviderAnswer}
    (records : List WatchedAccountRecord) :
    Extends store.holders
      (store.scanWatchedAccounts runtime tenant now answers records).1.holders :=
  extends_foldl records (store, ⟨0, 0, 0, []⟩)

/-- No event takes a finding from the account that holds it. -/
theorem extends_step (store : WatchedStore) (event : WatchedEvent) :
    Extends store.holders (store.step runtime event).holders := by
  cases event with
  | declare tenant declaration =>
      rw [WatchedStore.step]
      split
      · rename_i after declared
        have same : after.holders = store.holders := by
          rw [WatchedStore.declareWatchedAccount] at declared
          split at declared
          · cases declared
          · split at declared
            · cases declared
            · split at declared
              · cases declared
                rfl
              · cases declared
        rw [same]
        exact Extends.refl _
      · exact Extends.refl _
  | remove tenant account now user reason =>
      rw [WatchedStore.step]
      split
      · exact Extends.refl _
      · rw [WatchedStore.removeWatchedAccount]
        split <;> exact Extends.refl _
  | scan tenant now accountIds answers =>
      rw [WatchedStore.step, executed]
      exact extends_scanWatchedAccounts _
  | setStatus tenant finding status now =>
      rw [WatchedStore.step]
      split
      · exact Extends.refl _
      · rename_i finding found
        have same : (store.updateWatchedAccountFindingStatus finding status now).holders =
            store.holders := by
          refine holders_modifyFinding ?_
          exact fun _ => rfl
        rw [same]
        exact Extends.refl _
  | changeOffer billing => exact Extends.refl _

/-- A scanned account and a record of it, in the world where its turn came. -/
theorem holders_step_scan (runtime : Runtime) (now : Nat) {accountIds : List Nat}
    (answers : Nat → ProviderAnswer) {earlier rest : List WatchedAccountRecord}
    {record : WatchedAccountRecord}
    (targets : store.resolveScanTargets tenant accountIds = earlier ++ record :: rest) :
    Extends
      (registerAll (store.scanWatchedAccounts runtime tenant now answers earlier).1.holders record.id
        (recordKeys runtime tenant (answers record.id).ingested))
      (store.step runtime (.scan tenant now accountIds answers)).holders := by
  rw [← holders_scanWatchedAccount, WatchedStore.step, executed, targets,
    WatchedStore.scanWatchedAccounts, WatchedStore.scanWatchedAccounts, List.foldl_append,
    List.foldl_cons]
  exact extends_foldl rest _

theorem not_heldElsewhere_iff {hash : String} :
    ¬store.HeldElsewhere tenant account hash ↔
      ∀ former, store.holders (tenant, hash) = some former → former = account := by
  simp only [WatchedStore.HeldElsewhere, holders_eq_some]
  constructor
  · rintro nowhere former ⟨finding, member, here, rfl⟩
    by_contra apart
    exact nowhere ⟨finding, member, here, apart⟩
  · rintro mine ⟨finding, member, here, apart⟩
    exact apart (mine finding.account ⟨finding, member, here, rfl⟩)

/-- What the provider returned for a scanned account is stored once for the client
ever after, and the account shows it exactly where no other account of the client
had it when its turn came. -/
theorem scanned_findings_kept (runtime : Runtime) (store : WatchedStore) (tenant now : Nat)
    (accountIds : List Nat) (answers : Nat → ProviderAnswer)
    (earlier rest : List WatchedAccountRecord) (record : WatchedAccountRecord)
    (targets : store.resolveScanTargets tenant accountIds = earlier ++ record :: rest)
    (raw : RawFinding) (returned : raw ∈ (answers record.id).ingested) (real : raw.isTest = false)
    (later : List WatchedEvent) :
    Always (WatchedStore.step runtime)
      (fun after =>
        after.StoredOnce tenant (normalizeFinding runtime raw.endpoint raw.payload).dedupHash ∧
        (after.Shows runtime.unicode tenant record.id
            (normalizeFinding runtime raw.endpoint raw.payload).dedupHash ↔
          ¬(store.scanWatchedAccounts runtime tenant now answers earlier).1.HeldElsewhere tenant
            record.id (normalizeFinding runtime raw.endpoint raw.payload).dedupHash))
      (store.step runtime (.scan tenant now accountIds answers)) later := by
  have key := mem_recordKeys runtime tenant returned real
  generalize (normalizeFinding runtime raw.endpoint raw.payload).dedupHash = hash at key ⊢
  obtain ⟨holder, held⟩ := exists_registerAll_eq_some
    (store.scanWatchedAccounts runtime tenant now answers earlier).1.holders record.id key
  have mine := registerAll_eq_some_iff
    (store.scanWatchedAccounts runtime tenant now answers earlier).1.holders record.id key
  have scanned := holders_step_scan runtime now answers targets (tenant, hash) holder held
  -- The holder at the end of the account's turn stays the holder.
  have kept : Always (WatchedStore.step runtime)
      (fun after => after.holders (tenant, hash) = some holder)
      (store.step runtime (.scan tenant now accountIds answers)) later :=
    always_of_step (fun before event held => extends_step before event _ _ held) scanned later
  refine kept.imp ?_
  intro after still
  refine ⟨storedOnce_of_holder still, ?_⟩
  rw [shows_iff, not_heldElsewhere_iff, ← mine, held, still]

end Holders

/-! ## An account declared again -/

section DeclaredAgain

/-- An offer that lets the first client watch five accounts. -/
def watchingOffer : Billing.Store where
  plans := Table.empty
  subscriptions := Table.empty.create (fun key =>
    { id := key, tenant := 1, plan := 0, status := .active, period := .monthly, startedAt := 0
      trialEndsAt := none, renewsAt := none, endsAt := none, overrideMonitoredAssets := none
      overrideMonthlyScans := none, overrideMaxUsers := none, overrideWatchedAccounts := some 5
      overrideFeatures := none }) fun _ => rfl
  events := []

def directorAccount : Declaration where
  user := 7
  value := "Jean@acme.fr"
  label := "Direction"
  category := .executive
  legalBasis := .company
  purpose := "Compte exposé"
  accepted := true

/-- The provider returns one leaked credential for every account. -/
def leakedAgain (_ : Nat) : ProviderAnswer := .answered [leakedCredential] 1 0

/-- Declared, scanned, removed and declared again. -/
def declaredAgain : WatchedStore :=
  after (WatchedStore.step plainRuntime) (.empty watchingOffer)
    [.declare 1 directorAccount, .scan 1 0 [] leakedAgain, .remove 1 0 1 (some 7) "",
      .declare 1 directorAccount]

/-- The second declaration is scanned, and its results do not show the credential. -/
theorem second_declaration_shows_nothing :
    (declaredAgain.resolveScanTargets 1 []).map (fun row => row.id) = [1] ∧
      leakedCredential ∈ (leakedAgain 1).ingested ∧ leakedCredential.isTest = false ∧
      ¬(declaredAgain.step plainRuntime (.scan 1 2 [] leakedAgain)).Shows plainRuntime.unicode 1 1
        (normalizeFinding plainRuntime leakedCredential.endpoint
          leakedCredential.payload).dedupHash := by
  refine ⟨by decide +kernel, List.mem_singleton_self _, rfl, ?_⟩
  rw [shows_iff]
  decide +kernel

/-- The account of a first declaration. -/
def directorRecord : WatchedAccountRecord :=
  { directorAccount.row plainRuntime.unicode 1 0 with
    firstScannedAt := none
    lastScannedAt := none
    removedAt := none
    removedBy := none
    removalReason := "" }

/-- The first scan stores the credential, and its removal keeps it stored. -/
theorem scanned_findings_kept_first :
    (after (WatchedStore.step plainRuntime) (.empty watchingOffer)
        [.declare 1 directorAccount, .scan 1 0 [] leakedAgain,
          .remove 1 0 1 (some 7) ""]).StoredOnce 1
      (normalizeFinding plainRuntime leakedCredential.endpoint
        leakedCredential.payload).dedupHash := by
  have kept := scanned_findings_kept plainRuntime
    ((WatchedStore.empty watchingOffer).step plainRuntime (.declare 1 directorAccount)) 1 0 []
    leakedAgain [] [] directorRecord (by decide +kernel) leakedCredential
    (List.mem_singleton_self _) rfl [.remove 1 0 1 (some 7) ""]
  exact kept.last.1

end DeclaredAgain

end RssiService.ThreatIntelligence
