import RssiService.Accounts.Lockout
import RssiService.Billing.Entitlements
import RssiService.ThreatIntelligence.Correlation
import RssiService.ThreatIntelligence.FindingDetails
import RssiService.ThreatIntelligence.PlainLanguage

/-!
# The exposure feed

The open findings of a tenant, grouped by asset.  Each group shows its first
hundred findings, the gravest and freshest ones, with their details, and the
reuse signals of all of them.
-/

namespace RssiService.ThreatIntelligence

open Foundation Python
open Accounts (microsecondsPerSecond)
open Monitoring (Asset)

/-! ## Data -/

inductive MembershipRole where
  | admin
  | contributor
  | reader
  deriving DecidableEq, Repr

structure Membership where
  id : Nat
  tenant : Nat
  user : Nat
  email : String
  role : MembershipRole
  deriving DecidableEq, Repr

instance : Identified Membership := ⟨Membership.id⟩

/-- The data behind the pages of a tenant. -/
structure Workspace where
  store : Store
  assets : Table Asset
  members : Table Membership
  billing : Billing.Store

/-- What the platform supplies: the character tables, and the search of the
database, `text ILIKE '%part%'`. -/
structure Backend where
  unicode : Unicode
  icontains : String → String → Bool

/-! ## Identifiers -/

/-- The roles that see the identifiers in clear. -/
def canViewIdentifiers (role : Option MembershipRole) : Bool :=
  role = some .admin || role = some .contributor

def identifierForViewer (finding : BreachFinding) (role : Option MembershipRole) : String :=
  if canViewIdentifiers role then textOr finding.identifierPlain finding.identifierMasked
  else finding.identifierMasked

/-- A signal follows the rule of the finding it stands next to. -/
def ReuseSignal.forViewer (role : Option MembershipRole) (signal : ReuseSignal) : ReuseSignal :=
  if canViewIdentifiers role then signal else { signal with identifier := "" }

/-! ## The list -/

def preIncidentEndpoints : List SourceEndpoint := [.radar, .darkweb, .asm]

structure FindingFilter where
  status : Option String
  includePreIncident : Bool
  severity : Option Severity
  assetId : Option Int
  search : String

/-- The search reads the asset, the type and the endpoint, never the identifier. -/
def FindingFilter.finds (filter : FindingFilter) (backend : Backend) (workspace : Workspace)
    (finding : BreachFinding) : Bool :=
  filter.search = "" ||
    ((workspace.assets.find? finding.asset).any fun asset =>
      backend.icontains asset.value filter.search) ||
    backend.icontains finding.findingType filter.search ||
    backend.icontains finding.sourceEndpoint.value filter.search

def FindingFilter.keeps (filter : FindingFilter) (backend : Backend) (workspace : Workspace)
    (finding : BreachFinding) : Bool :=
  (filter.includePreIncident || !preIncidentEndpoints.contains finding.sourceEndpoint) &&
    filter.status.all (fun status => status = "" || finding.status.value = status) &&
    filter.severity.all (fun severity => finding.severity = severity) &&
    filter.assetId.all (fun asset => asset = 0 || (finding.asset : Int) = asset) &&
    filter.finds backend workspace finding

/-- The findings of a tenant, the last detected first. -/
def listFindings (backend : Backend) (workspace : Workspace) (tenant : Nat)
    (filter : FindingFilter) : List BreachFinding :=
  (workspace.store.findings.rows.filter fun finding =>
    finding.tenant = tenant && filter.keeps backend workspace finding).insertionSort
      fun first second => second.detectedAt ≤ first.detectedAt

/-- The open findings, the signals of public exposure included. -/
def openFindings (backend : Backend) (workspace : Workspace) (tenant : Nat) :
    List BreachFinding :=
  listFindings backend workspace tenant
    { status := some FindingStatus.open.value
      includePreIncident := true
      severity := none
      assetId := none
      search := "" }

/-! ## Freshness -/

def secondsPerDay : Nat := 86400

/-- The ordinal of 1 January 1970. -/
def epochOrdinal : Nat := 719163

/-- The ordinal of the day of an instant, in seconds since 1970. -/
def dayOrdinal (instant : Nat) : Nat :=
  epochOrdinal + instant / secondsPerDay

def severityRank : Severity → Nat
  | .critical => 0
  | .high => 1
  | .attention => 2

/-- The day of the leak, or the day it was detected. -/
def BreachFinding.referenceDay (finding : BreachFinding) : Nat :=
  (finding.breachDate.map Date.ordinal).getD
    (dayOrdinal (finding.detectedAt / microsecondsPerSecond))

/-- The order of the findings of an asset: the gravest first, then the freshest. -/
def freshnessBefore (first second : BreachFinding) : Bool :=
  severityRank first.severity < severityRank second.severity ||
    (severityRank first.severity = severityRank second.severity &&
      second.referenceDay ≤ first.referenceDay)

/-! ## Groups -/

def SourceEndpoint.label : SourceEndpoint → String
  | .stealer => "Logs de malware voleur d'identifiants"
  | .combo => "Liste combo (identifiant + mot de passe)"
  | .creds => "Identifiants exposés"
  | .sessions => "Sessions / cookies compromis"
  | .nhi => "Identité non-humaine (clé de service, token API)"
  | .darkweb => "Mention dark web"
  | .docs => "Document fuité"
  | .asm => "Surface d'attaque"
  | .radar => "Radar (mentions publiques)"
  | .webhook => "Notification temps réel (webhook)"

def Severity.label : Severity → String
  | .critical => "Critique"
  | .high => "Élevée"
  | .attention => "Attention"

structure FeedFinding where
  id : Nat
  sourceEndpoint : SourceEndpoint
  sourceLabel : String
  findingType : String
  severity : Severity
  severityLabel : String
  identifier : String
  secretMasked : String
  hasSecret : Bool
  secretPurgedAt : Option Nat
  breachDate : Option Date
  detectedAt : Nat
  meaning : String
  impact : String
  recommendedAction : String
  details : List FindingDetail
  reuseSignals : List ReuseSignal

/-- The findings of one asset.  A signal of the group stands next to the key of
the finding it is about, which the page does not show. -/
structure FeedGroup where
  assetId : Nat
  findingsCount : Nat
  findings : List FeedFinding
  reuseSignals : List (Nat × ReuseSignal)

structure ExposureFeed where
  assets : List FeedGroup
  totalFindings : Nat

/-- What is shown of a finding; `none` is the exception of a detail that cannot be formatted. -/
def serializeFindingForFeed (unicode : Unicode) (role : Option MembershipRole)
    (signals : List (Nat × List ReuseSignal)) (finding : BreachFinding) : Option FeedFinding :=
  let explanation := explain finding
  let reuseSignals := (signalsFor signals finding).map (ReuseSignal.forViewer role)
  (detailsFor unicode finding).map fun details =>
    { id := finding.id
      sourceEndpoint := finding.sourceEndpoint
      sourceLabel := finding.sourceEndpoint.label
      findingType := finding.findingType
      severity := finding.severity
      severityLabel := finding.severity.label
      identifier := identifierForViewer finding role
      secretMasked := finding.secretMasked
      hasSecret := finding.hasSecret
      secretPurgedAt := finding.secretPurgedAt
      breachDate := finding.breachDate
      detectedAt := finding.detectedAt
      meaning := explanation.meaning
      impact := explanation.impact
      recommendedAction :=
        if reuseSignals.isEmpty then explanation.action
        else explanation.action ++ " " ++ recommendedVerification finding
      details
      reuseSignals }

def maxFindingsParActif : Nat := 100

/-- The findings of an asset, in the order they are shown. -/
def assetFindings (findings : List BreachFinding) (asset : Nat) : List BreachFinding :=
  (findings.filter fun finding => finding.asset = asset).insertionSort
    fun first second => freshnessBefore first second

/-- The findings of an asset that are shown one by one. -/
def visibleFindings (findings : List BreachFinding) (asset : Nat) : List BreachFinding :=
  (assetFindings findings asset).take maxFindingsParActif

/-- The list is bounded, the signals are not. -/
def feedGroup (unicode : Unicode) (findings : List BreachFinding)
    (signals : List (Nat × List ReuseSignal)) (role : Option MembershipRole) (asset : Nat) :
    Option FeedGroup :=
  ((visibleFindings findings asset).mapM (serializeFindingForFeed unicode role signals)).map
    fun shown =>
      { assetId := asset
        findingsCount := (assetFindings findings asset).length
        findings := shown
        reuseSignals := (assetFindings findings asset).flatMap fun finding =>
          (signalsFor signals finding).map fun signal => (finding.id, signal.forViewer role) }

def tenantMemberEmails (workspace : Workspace) (tenant : Nat) : List String :=
  (workspace.members.rows.filter fun member => member.tenant = tenant).map Membership.email

def listAssets (workspace : Workspace) (tenant : Nat) : List Asset :=
  workspace.assets.rows.filter fun asset => asset.tenant = tenant

/-- The signals of the open findings; an offer without the analysis skips it. -/
def reuseByFinding (backend : Backend) (workspace : Workspace) (tenant : Nat) :
    Option (List (Nat × List ReuseSignal)) :=
  if workspace.billing.hasFeature tenant Billing.reuseCorrelation then
    correlate backend.unicode (openFindings backend workspace tenant)
      (tenantMemberEmails workspace tenant) (listAssets workspace tenant)
  else some []

/-- The feed of a tenant; `none` is the exception of a malformed URL, or of a size out of range. -/
def buildExposureFeed (backend : Backend) (workspace : Workspace) (tenant : Nat)
    (role : Option MembershipRole) : Option ExposureFeed :=
  (reuseByFinding backend workspace tenant).bind fun signals =>
    let findings := openFindings backend workspace tenant
    ((findings.map BreachFinding.asset).eraseDups.mapM
        (feedGroup backend.unicode findings signals role)).map fun groups =>
      { assets := groups
        totalFindings := findings.length }

/-- The sizes of the documents that a feed shows are in range. -/
def SizesShown (backend : Backend) (workspace : Workspace) (tenant : Nat) : Prop :=
  ∀ finding ∈ openFindings backend workspace tenant,
    finding ∈ visibleFindings (openFindings backend workspace tenant) finding.asset →
      finding.sourceEndpoint = .docs → SizeShown (finding.rawData.get "file_size")

/-! ## The identifiers of a feed -/

def FeedFinding.identifiers (finding : FeedFinding) : List (Nat × String) :=
  (finding.id, finding.identifier) ::
    finding.reuseSignals.map fun signal => (finding.id, signal.identifier)

def FeedGroup.identifiers (group : FeedGroup) : List (Nat × String) :=
  group.findings.flatMap FeedFinding.identifiers ++
    group.reuseSignals.map fun entry => (entry.1, entry.2.identifier)

/-- The identifier fields of a feed, each with the key of its finding. -/
def ExposureFeed.identifiers (feed : ExposureFeed) : List (Nat × String) :=
  feed.assets.flatMap FeedGroup.identifiers

section Feed

variable {backend : Backend} {workspace : Workspace} {tenant key : Nat} {text : String}
  {role : Option MembershipRole} {finding : BreachFinding} {findings : List BreachFinding}
  {signals : List (Nat × List ReuseSignal)}

theorem identifierForViewer_of_canView (sees : canViewIdentifiers role = true)
    (clear : finding.identifierPlain ≠ "") :
    identifierForViewer finding role = finding.identifierPlain := by
  rw [identifierForViewer, if_pos sees, textOr, if_neg clear]

theorem identifierForViewer_of_reader (masks : canViewIdentifiers role = false) :
    identifierForViewer finding role = finding.identifierMasked := by
  rw [identifierForViewer, masks]
  rfl

theorem mem_listFindings {filter : FindingFilter} :
    finding ∈ listFindings backend workspace tenant filter ↔
      finding ∈ workspace.store.findings ∧ finding.tenant = tenant ∧
        filter.keeps backend workspace finding = true := by
  simp [listFindings, List.mem_insertionSort, Table.mem_def]

theorem nodup_listFindings {filter : FindingFilter} :
    (listFindings backend workspace tenant filter).Nodup :=
  (List.perm_insertionSort _ _).nodup_iff.mpr (workspace.store.findings.nodup_rows.filter _)

/-- The filter of the feed keeps the open findings, whatever their endpoint. -/
theorem openFindings_eq (backend : Backend) (workspace : Workspace) (tenant : Nat) :
    openFindings backend workspace tenant =
      (workspace.store.findings.rows.filter fun finding =>
        finding.tenant = tenant && finding.status = .open).insertionSort
          fun first second => second.detectedAt ≤ first.detectedAt := by
  rw [openFindings, listFindings]
  congr 2
  funext finding
  cases status : finding.status <;>
    simp [FindingFilter.keeps, FindingFilter.finds, FindingStatus.value, status]

theorem mem_openFindings :
    finding ∈ openFindings backend workspace tenant ↔
      finding ∈ workspace.store.findings ∧ finding.tenant = tenant ∧ finding.status = .open := by
  simp [openFindings_eq, List.mem_insertionSort, Table.mem_def]

theorem mem_assetFindings {asset : Nat} :
    finding ∈ assetFindings findings asset ↔ finding ∈ findings ∧ finding.asset = asset := by
  simp [assetFindings, List.mem_insertionSort]

theorem mem_findings_of_visible {asset : Nat} (shown : finding ∈ visibleFindings findings asset) :
    finding ∈ findings ∧ finding.asset = asset :=
  mem_assetFindings.mp (List.mem_of_mem_take shown)

theorem serializeFindingForFeed_ne_none_iff {unicode : Unicode} :
    serializeFindingForFeed unicode role signals finding ≠ none ↔
      (finding.sourceEndpoint = .docs → SizeShown (finding.rawData.get "file_size")) := by
  rw [← detailsFor_ne_none_iff, serializeFindingForFeed, ne_eq, Option.map_eq_none_iff]

/-- Every shown finding is serialized exactly where the sizes are in range. -/
theorem sizesShown_iff (role : Option MembershipRole) (signals : List (Nat × List ReuseSignal)) :
    SizesShown backend workspace tenant ↔
      ∀ asset ∈ (openFindings backend workspace tenant).map BreachFinding.asset,
        (visibleFindings (openFindings backend workspace tenant) asset).mapM
          (serializeFindingForFeed backend.unicode role signals) ≠ none := by
  simp only [Outcome.mapM_ne_none_iff, serializeFindingForFeed_ne_none_iff]
  constructor
  · intro sizes asset _ finding visible
    obtain ⟨member, rfl⟩ := mem_findings_of_visible visible
    exact sizes finding member visible
  · intro sizes finding member visible
    exact sizes finding.asset (List.mem_map_of_mem member) finding visible

theorem buildExposureFeed_ne_none_iff :
    buildExposureFeed backend workspace tenant role ≠ none ↔
      reuseByFinding backend workspace tenant ≠ none ∧ SizesShown backend workspace tenant := by
  rw [buildExposureFeed]
  cases reuseByFinding backend workspace tenant with
  | none => exact iff_of_false (fun ne => ne rfl) fun both => both.1 rfl
  | some signals =>
      rw [Option.bind_some, ne_eq, Option.map_eq_none_iff, ← ne_eq, Outcome.mapM_ne_none_iff,
        and_iff_right (by rintro ⟨⟩), sizesShown_iff role signals]
      simp only [List.mem_eraseDups, feedGroup, ne_eq, Option.map_eq_none_iff]

/-- An entry of a shown finding is its identifier or that of one of its signals. -/
theorem mem_identifiers_serialized {unicode : Unicode} {shown : FeedFinding}
    (serialized : serializeFindingForFeed unicode role signals finding = some shown) :
    (key, text) ∈ shown.identifiers ↔
      finding.id = key ∧ (identifierForViewer finding role = text ∨
        ∃ signal ∈ signalsFor signals finding, (signal.forViewer role).identifier = text) := by
  obtain ⟨details, _, rfl⟩ := Option.map_eq_some_iff.mp serialized
  simp only [FeedFinding.identifiers, List.map_map, List.mem_cons,
    List.mem_map, Function.comp_apply, Prod.mk.injEq]
  constructor
  · rintro (⟨rfl, rfl⟩ | ⟨signal, member, rfl, rfl⟩)
    · exact ⟨rfl, Or.inl rfl⟩
    · exact ⟨rfl, Or.inr ⟨signal, member, rfl⟩⟩
  · rintro ⟨rfl, rfl | ⟨signal, member, rfl⟩⟩
    · exact Or.inl ⟨rfl, rfl⟩
    · exact Or.inr ⟨signal, member, rfl, rfl⟩

theorem mem_identifiers_group {unicode : Unicode} {asset : Nat} {group : FeedGroup}
    (grouped : feedGroup unicode findings signals role asset = some group) :
    (key, text) ∈ group.identifiers ↔
      (∃ finding ∈ visibleFindings findings asset,
        finding.id = key ∧ identifierForViewer finding role = text) ∨
      ∃ finding ∈ assetFindings findings asset, finding.id = key ∧
        ∃ signal ∈ signalsFor signals finding, (signal.forViewer role).identifier = text := by
  obtain ⟨shown, serialized, rfl⟩ := Option.map_eq_some_iff.mp grouped
  have listed : (∃ item ∈ shown, (key, text) ∈ item.identifiers) ↔
      ∃ finding ∈ visibleFindings findings asset, finding.id = key ∧
        (identifierForViewer finding role = text ∨
          ∃ signal ∈ signalsFor signals finding, (signal.forViewer role).identifier = text) := by
    rw [Outcome.exists_mem_mapM_iff serialized]
    constructor
    · rintro ⟨finding, visible, item, each, entry⟩
      exact ⟨finding, visible, (mem_identifiers_serialized each).mp entry⟩
    · rintro ⟨finding, visible, entry⟩
      obtain ⟨item, each⟩ := Outcome.exists_of_mapM serialized visible
      exact ⟨finding, visible, item, each, (mem_identifiers_serialized each).mpr entry⟩
  simp only [FeedGroup.identifiers, List.mem_append, List.mem_flatMap, listed, List.mem_map,
    Prod.mk.injEq]
  constructor
  · rintro (⟨finding, shown, rfl, rfl | signalled⟩ |
      ⟨_, ⟨finding, known, signal, member, rfl⟩, same⟩)
    · exact Or.inl ⟨finding, shown, rfl, rfl⟩
    · exact Or.inr ⟨finding, List.mem_of_mem_take shown, rfl, signalled⟩
    · exact Or.inr ⟨finding, known, same.1, signal, member, same.2⟩
  · rintro (⟨finding, shown, rfl, rfl⟩ | ⟨finding, known, rfl, signal, member, rfl⟩)
    · exact Or.inl ⟨finding, shown, rfl, Or.inl rfl⟩
    · exact Or.inr ⟨_, ⟨finding, known, signal, member, rfl⟩, rfl, rfl⟩

/-- The entries of a feed: the identifiers of the shown findings, and those of
the signals of every open finding. -/
theorem mem_identifiers_feed {feed : ExposureFeed}
    (computed : reuseByFinding backend workspace tenant = some signals)
    (built : buildExposureFeed backend workspace tenant role = some feed) :
    (key, text) ∈ feed.identifiers ↔
      ∃ finding ∈ openFindings backend workspace tenant, finding.id = key ∧
        ((finding ∈ visibleFindings (openFindings backend workspace tenant) finding.asset ∧
            identifierForViewer finding role = text) ∨
          ∃ signal ∈ signalsFor signals finding, (signal.forViewer role).identifier = text) := by
  rw [buildExposureFeed, computed, Option.bind_some] at built
  obtain ⟨groups, grouped, rfl⟩ := Option.map_eq_some_iff.mp built
  simp only [ExposureFeed.identifiers, List.mem_flatMap, Outcome.exists_mem_mapM_iff grouped,
    List.mem_eraseDups]
  constructor
  · rintro ⟨asset, _, group, each, entry⟩
    rcases (mem_identifiers_group each).mp entry with
      ⟨finding, shown, rfl, rfl⟩ | ⟨finding, known, rfl, signalled⟩
    · obtain ⟨member, rfl⟩ := mem_findings_of_visible shown
      exact ⟨finding, member, rfl, Or.inl ⟨shown, rfl⟩⟩
    · exact ⟨finding, (mem_assetFindings.mp known).1, rfl, Or.inr signalled⟩
  · rintro ⟨finding, member, rfl, entry⟩
    have asset : finding.asset ∈ ((openFindings backend workspace tenant).map
        BreachFinding.asset).eraseDups := List.mem_eraseDups.mpr (List.mem_map_of_mem member)
    obtain ⟨group, each⟩ := Outcome.exists_of_mapM grouped asset
    refine ⟨finding.asset, List.mem_map_of_mem member, group, each, ?_⟩
    rw [mem_identifiers_group each]
    rcases entry with ⟨shown, rfl⟩ | signalled
    · exact Or.inl ⟨finding, shown, rfl, rfl⟩
    · exact Or.inr ⟨finding, mem_assetFindings.mpr ⟨member, rfl⟩, rfl, signalled⟩

/-- A signal gives a viewer the identifier of its finding in clear, and a
reader nothing. -/
theorem identifier_of_signalsFor
    (computed : reuseByFinding backend workspace tenant = some signals)
    (known : finding ∈ openFindings backend workspace tenant) {signal : ReuseSignal}
    (member : signal ∈ signalsFor signals finding) :
    finding.identifierPlain ≠ "" ∧ signal.identifier = finding.identifierPlain := by
  rw [reuseByFinding] at computed
  split at computed
  · refine identifier_of_mem_signalsFor ?_ computed known member
    intro first firstOpen second secondOpen same
    exact Table.ident_injective (mem_openFindings.mp firstOpen).1
      (mem_openFindings.mp secondOpen).1 same
  · cases computed
    cases member

end Feed

end RssiService.ThreatIntelligence
