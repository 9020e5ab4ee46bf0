import RssiService.ThreatIntelligence.OwnSources
import RssiService.ThreatIntelligence.Redelivery

/-!
# What the provider can do to the feed

The records of the provider are stored almost as they come, and the feed of the tenant reads them
back: `correlate` parses the source of each account, and the details of a document format its
size.  A row that one of them cannot read takes the feed away from every other finding.
-/

namespace RssiService.ThreatIntelligence

open Foundation Foundation.Leading Foundation.Run Python
open Monitoring (Asset)

/-! ## Rows -/

/-- A row without the columns that the feed does not read. -/
def BreachFinding.bare (finding : BreachFinding) : BreachFinding :=
  { finding with
    secretEncrypted := none
    lastSeenAt := none
    dedupHash := ""
    secretFingerprint := ""
    alert := none
    treatedBy := none
    treatedAt := none }

def Store.bareRows (store : Store) : List BreachFinding :=
  store.findings.rows.map BreachFinding.bare

def BreachFinding.isOpenOf (tenant : Nat) (finding : BreachFinding) : Bool :=
  finding.tenant = tenant && finding.status = .open

/-- In the group of an asset a finding stands before another one: the gravest, then the freshest,
then the last detected, and at last the first stored. -/
def StandsBefore : BreachFinding → BreachFinding → Prop :=
  StableBefore (fun first second => freshnessBefore first second = true)
    (StableBefore (fun first second => second.detectedAt ≤ first.detectedAt)
      fun first second => first.id < second.id)

instance : DecidableRel StandsBefore := fun first second =>
  inferInstanceAs (Decidable (StableBefore (fun first second => freshnessBefore first second = true)
    (StableBefore (fun first second => second.detectedAt ≤ first.detectedAt)
      fun first second => first.id < second.id) first second))

/-- Fewer open findings than a group shows stand before the finding. -/
def LeadsGroup (tenant : Nat) (rows : List BreachFinding) (finding : BreachFinding) : Prop :=
  rows.countP (fun other => (other.isOpenOf tenant && other.asset = finding.asset) &&
    StandsBefore other finding) < maxFindingsParActif

/-! ## What the feed can read -/

/-- A text is no malformed URL. -/
def UrlReads (unicode : Unicode) (text : String) : Prop :=
  contains text "://" = true → Url.netloc unicode text ≠ none

/-- The source of an account in clear is no malformed URL. -/
def SourceReads (unicode : Unicode) (finding : BreachFinding) : Prop :=
  finding.sourceEndpoint ∈ identifierBearingEndpoints → finding.identifierPlain ≠ "" →
    identifierOf unicode finding ≠ "" → ∀ text,
      sourceText unicode finding.rawData ["dom", "domain_name", "src"] = some text →
        UrlReads unicode text

/-- What the feed needs of a row: its source where the offer has the correlation, and the size of a
document where it is shown. -/
structure Readable (unicode : Unicode) (correlated : Bool) (tenant : Nat)
    (rows : List BreachFinding) (finding : BreachFinding) : Prop where
  source : correlated = true → SourceReads unicode finding
  size : LeadsGroup tenant rows finding → finding.sourceEndpoint = .docs →
    SizeShown (finding.rawData.get "file_size")

/-- The open rows of a tenant can be read. -/
def RowsReadable (unicode : Unicode) (correlated : Bool) (tenant : Nat)
    (rows : List BreachFinding) : Prop :=
  ∀ row ∈ rows, row.isOpenOf tenant = true → Readable unicode correlated tenant rows row

/-- The declared assets of a tenant can be read. -/
def AssetsReadable (unicode : Unicode) (workspace : Workspace) (tenant : Nat) : Prop :=
  ∀ asset ∈ workspace.assets, asset.tenant = tenant →
    UrlReads unicode (unicode.lower (strip asset.value))

/-- The offer of the tenant has the correlation. -/
def Workspace.correlated (workspace : Workspace) (tenant : Nat) : Bool :=
  workspace.billing.hasFeature tenant Billing.reuseCorrelation

/-- The feed of the tenant is built from a store. -/
def FeedBuilt (scale : Scale) (backend : Backend) (workspace : Workspace) (tenant : Nat)
    (role : Option MembershipRole) (store : Store) : Prop :=
  buildScoredFeed scale backend { workspace with store } tenant role ≠ none

/-! ## What a step leaves -/

instance (runtime : Runtime) (owner : Nat) (progress : Progress) (delivery : Delivery) :
    Decidable (Inserts runtime owner progress delivery) :=
  inferInstanceAs (Decidable (_ ∧ _ ∧ _ ∧ _ ∧ _ ∧ _))

/-- The row that one turn of the loop stores. -/
def storedRow (runtime : Runtime) (owner : Nat) (asset : Asset) (now : Nat) (progress : Progress)
    (delivery : Delivery) : List BreachFinding :=
  if Inserts runtime owner progress delivery then
    [(newFinding owner asset now
      (normalizeFinding runtime delivery.raw.endpoint delivery.raw.payload) none
      progress.store.findings.next).bare]
  else []

/-- The rows that a batch stores, one for each record that is accepted as a new leak. -/
def storedRows (runtime : Runtime) (owner : Nat) (asset : Asset) (now : Nat)
    (report : IngestionReport) (deliveries : List Delivery) (store : Store) : List BreachFinding :=
  gathered (ingestRecord runtime owner asset now) (storedRow runtime owner asset now)
    (Progress.start store report) deliveries

def BreachFinding.restated (status : FindingStatus) (finding : BreachFinding) : BreachFinding :=
  { finding with status }

/-- The rows once a user has set the status of one. -/
def restatus (owner key : Nat) (status : FindingStatus) (rows : List BreachFinding) :
    List BreachFinding :=
  rows.map fun row => if row.id = key ∧ row.tenant = owner then row.restated status else row

/-- The rows that a step leaves. -/
def laterRows (runtime : Runtime) (store : Store) : Event → List BreachFinding
  | .ingest owner asset now report deliveries =>
      store.bareRows ++ storedRows runtime owner asset now report deliveries store
  | .setStatus owner key status _ _ => restatus owner key status store.bareRows

/-- What a step needs for the feed to stay: the rows that a batch stores can be read, and so can
the ones that a status opens or brings among the first ones of their group. -/
def KeepsReadable (unicode : Unicode) (correlated : Bool) (tenant : Nat) (runtime : Runtime)
    (store : Store) : Event → Prop
  | .ingest owner asset now report deliveries =>
      ∀ row ∈ storedRows runtime owner asset now report deliveries store,
        row.isOpenOf tenant = true →
          Readable unicode correlated tenant
            (store.bareRows ++ storedRows runtime owner asset now report deliveries store) row
  | .setStatus owner key status _ _ =>
      ∀ row ∈ restatus owner key status store.bareRows, row.isOpenOf tenant = true →
        ¬(row ∈ store.bareRows ∧ LeadsGroup tenant store.bareRows row) →
          Readable unicode correlated tenant (restatus owner key status store.bareRows) row

/-! ## When there is a feed -/

section Built

variable {scale : Scale} {backend : Backend} {workspace : Workspace} {tenant : Nat}
  {role : Option MembershipRole} {unicode : Unicode} {finding : BreachFinding} {asset : Asset}
  {store : Store}

instance : Std.Total fun first second : BreachFinding => second.detectedAt ≤ first.detectedAt where
  total first second := Nat.le_total second.detectedAt first.detectedAt

instance : IsTrans BreachFinding fun first second => second.detectedAt ≤ first.detectedAt where
  trans _ _ _ near far := Nat.le_trans far near

theorem standsBefore_asymm (first second : BreachFinding) (forth : StandsBefore first second) :
    ¬StandsBefore second first :=
  StableBefore.asymm
    (StableBefore.asymm fun _ _ lower => Nat.not_lt.mpr (Nat.le_of_lt lower)) first second forth

/-- Both sorts are stable, and the rows of the table come in the order of their keys. -/
theorem pairwise_standsBefore (backend : Backend) (workspace : Workspace) (tenant asset : Nat) :
    (assetFindings (openFindings backend workspace tenant) asset).Pairwise StandsBefore := by
  have detected : (openFindings backend workspace tenant).Pairwise
      (StableBefore (fun first second => second.detectedAt ≤ first.detectedAt)
        fun first second => first.id < second.id) := by
    rw [openFindings_eq]
    exact pairwise_insertionSort (workspace.store.findings.increasing.filter _)
  exact pairwise_insertionSort (detected.filter _)

/-- A group shows the open findings before which fewer than a hundred others stand. -/
theorem mem_visibleFindings_iff (isOpen : finding ∈ openFindings backend workspace tenant) :
    finding ∈ visibleFindings (openFindings backend workspace tenant) finding.asset ↔
      LeadsGroup tenant workspace.store.bareRows finding.bare := by
  have ranked : (assetFindings (openFindings backend workspace tenant) finding.asset).countP
      (fun other => StandsBefore other finding) =
        workspace.store.bareRows.countP fun other =>
          (other.isOpenOf tenant && other.asset = finding.asset) && StandsBefore other finding := by
    rw [assetFindings, (List.perm_insertionSort _ _).countP_eq, List.countP_filter, openFindings_eq,
      (List.perm_insertionSort _ _).countP_eq, List.countP_filter, Store.bareRows, List.countP_map]
    refine List.countP_congr fun other _ => ?_
    change ((decide (StandsBefore other finding) && decide (other.asset = finding.asset)) &&
      other.isOpenOf tenant) = true ↔ ((other.isOpenOf tenant &&
        decide (other.asset = finding.asset)) && decide (StandsBefore other finding)) = true
    simp only [Bool.and_eq_true]
    constructor
    · rintro ⟨⟨stands, same⟩, isOpen⟩
      exact ⟨⟨isOpen, same⟩, stands⟩
    · rintro ⟨⟨isOpen, same⟩, stands⟩
      exact ⟨⟨stands, same⟩, isOpen⟩
  rw [visibleFindings, mem_take_iff_countP (pairwise_standsBefore backend workspace tenant _)
    standsBefore_asymm, ranked]
  exact and_iff_right (mem_assetFindings.mpr ⟨isOpen, rfl⟩)

theorem hostname_ne_none_iff {text : String} :
    Url.hostname unicode text ≠ none ↔ Url.netloc unicode text ≠ none := by
  rw [Url.hostname, ne_eq, Option.map_eq_none_iff]

theorem findingDomain_ne_none_iff :
    findingDomain unicode finding ≠ none ↔
      ∀ text, sourceText unicode finding.rawData ["dom", "domain_name", "src"] = some text →
        UrlReads unicode text := by
  rw [findingDomain, announcedDomain_eq]
  cases sourceText unicode finding.rawData ["dom", "domain_name", "src"] with
  | none => exact iff_of_true (by rintro ⟨⟩) (by rintro _ ⟨⟩)
  | some text =>
      simp only [Option.some.injEq, forall_eq']
      rw [UrlReads, ← hostname_ne_none_iff]
      split
      · rename_i url
        rw [imp_iff_right url, ne_eq, Option.map_eq_none_iff]
      · rename_i plain
        exact iff_of_true (by rintro ⟨⟩) fun url => absurd url plain

theorem ownDomains_ne_none_iff :
    ownDomains unicode asset ≠ none ↔ UrlReads unicode (unicode.lower (strip asset.value)) := by
  rw [ownDomains, UrlReads, ← hostname_ne_none_iff, ne_eq, Option.map_eq_none_iff]
  split
  · rename_i url
    rw [imp_iff_right url, Option.map_eq_none_iff]
  · rename_i plain
    exact iff_of_true (by rintro ⟨⟩) fun url => absurd url plain

theorem mem_bareRows {row : BreachFinding} :
    row ∈ store.bareRows ↔ ∃ finding ∈ store.findings, finding.bare = row :=
  List.mem_map

theorem isOpenOf_iff : finding.isOpenOf tenant = true ↔
    finding.tenant = tenant ∧ finding.status = .open := by
  rw [BreachFinding.isOpenOf, Bool.and_eq_true, decide_eq_true_eq, decide_eq_true_eq]

/-- The feed of a tenant is built where its assets and its open rows can be read. -/
theorem feedBuilt_iff (scale : Scale) (backend : Backend) (workspace : Workspace) (tenant : Nat)
    (role : Option MembershipRole) (store : Store) :
    FeedBuilt scale backend workspace tenant role store ↔
      (workspace.correlated tenant = true → AssetsReadable backend.unicode workspace tenant) ∧
        RowsReadable backend.unicode (workspace.correlated tenant) tenant store.bareRows := by
  have shown {finding : BreachFinding}
      (isOpen : OpenOf { workspace with store } tenant finding) :
      finding ∈ visibleFindings (openFindings backend { workspace with store } tenant)
          finding.asset ↔ LeadsGroup tenant store.bareRows finding.bare :=
    mem_visibleFindings_iff (mem_openFindings.mpr isOpen)
  rw [FeedBuilt, buildScoredFeed_ne_none_iff, reuseByFinding_ne_none_iff]
  constructor
  · rintro ⟨urls, sizes⟩
    refine ⟨fun offered asset inside mine =>
      ownDomains_ne_none_iff.mp ((urls offered).1 asset inside mine), ?_⟩
    intro row listed isOpen
    obtain ⟨finding, inside, rfl⟩ := mem_bareRows.mp listed
    have opened : OpenOf { workspace with store } tenant finding :=
      ⟨inside, isOpenOf_iff.mp isOpen⟩
    exact {
      source := fun offered bearing clear usable =>
        findingDomain_ne_none_iff.mp ((urls offered).2 finding opened bearing clear usable)
      size := fun leads document =>
        sizes finding (mem_openFindings.mpr opened) ((shown opened).mpr leads) document }
  · rintro ⟨assets, rows⟩
    have readable {finding : BreachFinding}
        (opened : OpenOf { workspace with store } tenant finding) :
        Readable backend.unicode (workspace.correlated tenant) tenant store.bareRows finding.bare :=
      rows finding.bare (mem_bareRows.mpr ⟨finding, opened.1, rfl⟩) (isOpenOf_iff.mpr opened.2)
    refine ⟨fun offered => ⟨fun asset inside mine =>
      ownDomains_ne_none_iff.mpr (assets offered asset inside mine), ?_⟩, ?_⟩
    · intro finding opened bearing clear usable
      exact findingDomain_ne_none_iff.mpr ((readable opened).source offered bearing clear usable)
    · intro finding listed visible document
      have opened := mem_openFindings.mp listed
      exact (readable opened).size ((shown opened).mp visible) document

end Built

/-! ## The rows of a run -/

section Rows

variable {runtime : Runtime} {owner now key : Nat} {asset : Asset} {progress : Progress}
  {delivery : Delivery} {store : Store} {report : IngestionReport} {deliveries : List Delivery}
  {status : FindingStatus} {user : Option Nat} {fault : Option Fault} {finding : BreachFinding}

/-- A write into the columns that the feed does not read. -/
theorem bareRows_modifyFinding {change : BreachFinding → BreachFinding}
    {keeps : ∀ row, ident (change row) = ident row}
    (same : ∀ row, (change row).bare = row.bare) :
    (store.modifyFinding key change keeps).bareRows = store.bareRows := by
  change ((store.findings.rows.map fun row => if ident row == key then change row else row).map
    BreachFinding.bare) = store.findings.rows.map BreachFinding.bare
  rw [List.map_map]
  refine List.map_congr_left fun row _ => ?_
  rw [Function.comp_apply]
  split
  · exact same row
  · rfl

theorem bareRows_insertFinding {build : Nat → BreachFinding}
    {ident_build : ∀ key, ident (build key) = key} :
    (store.insertFinding build ident_build).bareRows =
      store.bareRows ++ [(build store.findings.next).bare] :=
  List.map_append

theorem bareRows_raiseAlert :
    (raiseAlert asset now progress fault finding).store.bareRows = progress.store.bareRows := by
  rw [raiseAlert]
  split
  · rfl
  · dsimp only
    split
    · rfl
    · exact bareRows_modifyFinding fun _ => rfl

theorem bareRows_findExistingFinding {normalized : NormalizedFinding} {later : Store}
    (found : findExistingFinding store owner normalized = some (later, finding)) :
    later.bareRows = store.bareRows := by
  rcases findExistingFinding_cases found with ⟨rfl, _⟩ | ⟨_, _, _, _, rfl, _⟩
  · rfl
  · exact bareRows_modifyFinding fun _ => rfl

theorem bareRows_observeExisting :
    (observeExisting now progress fault finding).store.bareRows = progress.store.bareRows := by
  rw [observeExisting]
  split
  · rfl
  · exact bareRows_modifyFinding fun _ => rfl

/-- One turn of the loop adds the row it stores, and keeps what the feed reads of the others. -/
theorem bareRows_ingestRecord (runtime : Runtime) (owner : Nat) (asset : Asset) (now : Nat)
    (progress : Progress) (delivery : Delivery) :
    (ingestRecord runtime owner asset now progress delivery).store.bareRows =
      progress.store.bareRows ++ storedRow runtime owner asset now progress delivery := by
  have course := ingestRecord_course runtime owner now asset progress delivery
  have nothing (passes : ¬Inserts runtime owner progress delivery) :
      progress.store.bareRows ++ storedRow runtime owner asset now progress delivery =
        progress.store.bareRows := by
    rw [storedRow, if_neg passes]
    exact List.append_nil _
  generalize ingestRecord runtime owner asset now progress delivery = later at course ⊢
  cases course with
  | passed idle =>
      rw [nothing]
      rintro ⟨running, real, _⟩
      rcases idle with failed | test
      · exact failed running
      · rw [real] at test
        cases test
  | unencrypted running real secret stopped =>
      rw [nothing fun inserts => inserts.2.2.1.elim secret fun other => other stopped]
      rfl
  | unlooked running real stopped =>
      rw [nothing fun inserts => inserts.2.2.2.1 stopped]
      rfl
  | known looks found =>
      rw [nothing fun inserts => ?_, bareRows_observeExisting]
      · exact bareRows_findExistingFinding found
      · cases inserts.2.2.2.2.1.symm.trans found
  | uninserted looks unknown stopped =>
      rw [nothing fun inserts => inserts.2.2.2.2.2 stopped]
      rfl
  | inserted secretEncrypted looks unknown inserts =>
      have stored : Inserts runtime owner progress delivery :=
        ⟨looks.running, looks.real, looks.encrypted, looks.looked, unknown, inserts⟩
      rw [storedRow, if_pos stored, bareRows_raiseAlert]
      exact bareRows_insertFinding

theorem bareRows_ingestRawFindings (runtime : Runtime) (owner : Nat) (asset : Asset) (now : Nat)
    (report : IngestionReport) (deliveries : List Delivery) (store : Store) :
    (ingestRawFindings runtime owner asset now report deliveries store).store.bareRows =
      store.bareRows ++ storedRows runtime owner asset now report deliveries store := by
  have loop : (after (ingestRecord runtime owner asset now) (Progress.start store report)
      deliveries).store.bareRows = _ :=
    log_after (fun progress : Progress => progress.store.bareRows)
      (bareRows_ingestRecord runtime owner asset now) (Progress.start store report) deliveries
  rw [ingestRawFindings]
  split
  · exact loop
  · exact loop

theorem bareRows_setStatus :
    (step runtime store (.setStatus owner key status user now)).bareRows =
      restatus owner key status store.bareRows := by
  have restated : restatus owner key status store.bareRows =
      store.findings.rows.map fun row =>
        if row.id = key ∧ row.tenant = owner then row.bare.restated status else row.bare :=
    List.map_map
  rw [step, restated]
  cases found : getFinding store owner key with
  | none =>
      refine List.map_congr_left fun row listed => ?_
      rw [if_neg]
      rintro ⟨sameKey, mine⟩
      have known := getFinding_eq_some.mpr ⟨listed, sameKey, mine⟩
      rw [found] at known
      cases known
  | some finding =>
      obtain ⟨stored, rfl, rfl⟩ := getFinding_eq_some.mp found
      refine List.map_map.trans (List.map_congr_left fun row listed => ?_)
      rw [Function.comp_apply]
      by_cases sameKey : row.id = finding.id
      · obtain rfl := Table.ident_injective listed stored sameKey
        rw [if_pos (c := row.id = row.id ∧ row.tenant = row.tenant) ⟨rfl, rfl⟩]
        exact congrArg BreachFinding.bare (if_pos (beq_self_eq_true row.id))
      · rw [if_neg (c := row.id = finding.id ∧ row.tenant = finding.tenant) fun both =>
          sameKey both.1]
        exact congrArg BreachFinding.bare (if_neg (by simpa using sameKey))

/-- What the feed reads of the rows that a step leaves. -/
theorem bareRows_step (runtime : Runtime) (store : Store) (event : Event) :
    (step runtime store event).bareRows = laterRows runtime store event := by
  cases event with
  | ingest owner asset now report deliveries =>
      exact bareRows_ingestRawFindings runtime owner asset now report deliveries store
  | setStatus owner key status user now => exact bareRows_setStatus

end Rows

/-! ## Runs -/

section Runs

variable {unicode : Unicode} {correlated : Bool} {tenant owner key : Nat} {runtime : Runtime}
  {store : Store} {rows new : List BreachFinding} {finding : BreachFinding}
  {status : FindingStatus}

/-- New rows bring no other one among the first of its group. -/
theorem LeadsGroup.of_append (leads : LeadsGroup tenant (rows ++ new) finding) :
    LeadsGroup tenant rows finding := by
  rw [LeadsGroup, List.countP_append] at leads
  exact Nat.lt_of_le_of_lt (Nat.le_add_right _ _) leads

theorem rowsReadable_append_iff (readable : RowsReadable unicode correlated tenant rows) :
    RowsReadable unicode correlated tenant (rows ++ new) ↔
      ∀ row ∈ new, row.isOpenOf tenant = true →
        Readable unicode correlated tenant (rows ++ new) row := by
  constructor
  · intro all row listed
    exact all row (List.mem_append_right rows listed)
  · intro stored row listed isOpen
    rcases List.mem_append.mp listed with old | fresh
    · have before := readable row old isOpen
      exact ⟨before.source, fun leads => before.size leads.of_append⟩
    · exact stored row fresh isOpen

/-- A row that was open and among the first of its group can still be read. -/
theorem rowsReadable_iff_of_rows (later : List BreachFinding)
    (readable : RowsReadable unicode correlated tenant rows) :
    RowsReadable unicode correlated tenant later ↔
      ∀ row ∈ later, row.isOpenOf tenant = true →
        ¬(row ∈ rows ∧ LeadsGroup tenant rows row) →
          Readable unicode correlated tenant later row := by
  constructor
  · intro all row listed isOpen _
    exact all row listed isOpen
  · intro moved row listed isOpen
    by_cases led : row ∈ rows ∧ LeadsGroup tenant rows row
    · have before := readable row led.1 isOpen
      exact ⟨before.source, fun _ => before.size led.2⟩
    · exact moved row listed isOpen led

theorem rowsReadable_step_iff (event : Event)
    (readable : RowsReadable unicode correlated tenant store.bareRows) :
    RowsReadable unicode correlated tenant (step runtime store event).bareRows ↔
      KeepsReadable unicode correlated tenant runtime store event := by
  rw [bareRows_step]
  cases event with
  | ingest owner asset now report deliveries => exact rowsReadable_append_iff readable
  | setStatus owner key status user now => exact rowsReadable_iff_of_rows _ readable

/-- Over a run of batches and of statuses the feed of a tenant is always there exactly when at
first its assets and its open rows can be read, each batch stores only rows that can be read, and
each status brings only such rows to light. -/
theorem feed_always_built_iff (scale : Scale) (backend : Backend) (workspace : Workspace)
    (tenant : Nat) (role : Option MembershipRole) (runtime : Runtime) (events : List Event) :
    Always (step runtime) (FeedBuilt scale backend workspace tenant role) workspace.store events ↔
      ((workspace.correlated tenant = true → AssetsReadable backend.unicode workspace tenant) ∧
        RowsReadable backend.unicode (workspace.correlated tenant) tenant
          workspace.store.bareRows) ∧
        EachStep (step runtime) (KeepsReadable backend.unicode (workspace.correlated tenant) tenant
          runtime) workspace.store events := by
  rw [← feedBuilt_iff scale backend workspace tenant role workspace.store]
  refine always_iff_start_and_eachStep (fun store event built => ?_) workspace.store events
  obtain ⟨assets, rows⟩ := (feedBuilt_iff scale backend workspace tenant role store).mp built
  rw [feedBuilt_iff, and_iff_right assets]
  exact rowsReadable_step_iff event rows

end Runs

/-! A credential from a source that is a broken URL, and a document of an unbounded size. -/

section Poisoned

def correlatedWorkspace : Workspace :=
  { brokenWorkspace with store := ⟨Table.empty, Table.empty, Table.empty⟩ }

def brokenDelivery : Delivery :=
  { raw :=
      { endpoint := "creds"
        payload := [("eml", .str "jean@acme.fr"), ("src", .str "https://[forum.example")]
        isTest := false }
    token := "token"
    fault := none }

def endlessDelivery : Delivery :=
  { raw :=
      { endpoint := "docs"
        payload := [("file_name", .str "paie.pdf"), ("file_size", .int (10 ^ 318))]
        isTest := false }
    token := "token"
    fault := none }

/-- One record of the provider, and the feed that was built is not built any more. -/
theorem stored_record_stops_feed :
    FeedBuilt ⟨exactly, ⟨20, 50, 75⟩, 40⟩ asciiBackend correlatedWorkspace 1 none
        correlatedWorkspace.store ∧
      ∀ delivery ∈ [brokenDelivery, endlessDelivery],
        ¬FeedBuilt ⟨exactly, ⟨20, 50, 75⟩, 40⟩ asciiBackend correlatedWorkspace 1 none
          (step plainRuntime correlatedWorkspace.store
            (.ingest 1 (acmeAsset 0) 30 ⟨[], [], []⟩ [delivery])) := by
  simp only [FeedBuilt, ← Option.isSome_iff_ne_none]
  decide +kernel

end Poisoned

end RssiService.ThreatIntelligence
