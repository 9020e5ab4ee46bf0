import RssiService.Foundation.Leading
import RssiService.ThreatIntelligence.ExposureScore

/-!
# The scored exposure feed

The groups of the feed come with their scores, the highest first.  A group shows its first
findings and counts those that it hides, and its score and its signals are of all of them.
-/

namespace RssiService.ThreatIntelligence

open Foundation Foundation.Grouping Foundation.Leading Python
open Monitoring (Asset AssetType)

/-! ## Groups with a score -/

/-- The asset of a group and its score, with the findings that are shown. -/
structure ScoredGroup where
  assetId : Nat
  assetValue : String
  assetTypeLabel : String
  score : ExposureScore
  findings : List FeedFinding
  findingsShown : Nat
  findingsHidden : Nat
  reuseSignals : List ReuseSignal

structure ScoredFeed where
  assets : List ScoredGroup
  totalFindings : Nat
  highestScore : Int

def typeLabel : AssetType → String
  | .website => "Site web"
  | .emailDomain => "Domaine email"

/-- What the scores are computed with. -/
structure Scale where
  arithmetic : Arithmetic
  thresholds : LevelThresholds
  now : Nat

/-- One turn of the loop over the assets; the score is computed before the sort. -/
def scoredGroup (scale : Scale) (unicode : Unicode) (workspace : Workspace)
    (role : Option MembershipRole) (signals : List (Nat × List ReuseSignal))
    (findings : List BreachFinding) (asset : Nat) : Option ScoredGroup :=
  let found := workspace.assets.find? asset
  let score := computeExposureScore scale.arithmetic scale.thresholds
    (members BreachFinding.asset findings asset) scale.now
  let sorted := assetFindings findings asset
  ((sorted.take maxFindingsParActif).mapM (serializeFindingForFeed unicode role signals)).map
    fun serialized =>
      { assetId := asset
        assetValue := (found.map Asset.value).getD ""
        assetTypeLabel := (found.map fun asset => typeLabel asset.type).getD ""
        score
        findings := serialized
        findingsShown := serialized.length
        findingsHidden := sorted.length - serialized.length
        reuseSignals := sorted.flatMap fun finding =>
          (signalsFor signals finding).map (ReuseSignal.forViewer role) }

/-- The highest score first, then the most findings, then the value of the asset. -/
def groupBefore (first second : ScoredGroup) : Prop :=
  second.score.score < first.score.score ∨ second.score.score = first.score.score ∧
    (second.score.findingsCount < first.score.findingsCount ∨
      second.score.findingsCount = first.score.findingsCount ∧
        first.assetValue ≤ second.assetValue)

instance : DecidableRel groupBefore := fun first second =>
  inferInstanceAs (Decidable (second.score.score < first.score.score ∨
    second.score.score = first.score.score ∧
      (second.score.findingsCount < first.score.findingsCount ∨
        second.score.findingsCount = first.score.findingsCount ∧
          first.assetValue ≤ second.assetValue)))

/-- The whole feed; `none` is the exception of a malformed URL, or of a size out of range. -/
def buildScoredFeed (scale : Scale) (backend : Backend) (workspace : Workspace) (tenant : Nat)
    (role : Option MembershipRole) : Option ScoredFeed :=
  (reuseByFinding backend workspace tenant).bind fun signals =>
    let findings := openFindings backend workspace tenant
    ((keys BreachFinding.asset findings).mapM
        (scoredGroup scale backend.unicode workspace role signals findings)).map fun groups =>
      let sorted := groups.insertionSort groupBefore
      { assets := sorted
        totalFindings := findings.length
        highestScore := (sorted.head?.map fun group => group.score.score).getD 0 }

/-! ## What a feed is to hold -/

def OpenOf (workspace : Workspace) (tenant : Nat) (finding : BreachFinding) : Prop :=
  finding ∈ workspace.store.findings ∧ finding.tenant = tenant ∧ finding.status = .open

/-- The first finding comes before the second one in the order of freshness. -/
def Fresher (first second : BreachFinding) : Prop :=
  severityRank first.severity < severityRank second.severity ∨
    severityRank first.severity = severityRank second.severity ∧
      second.referenceDay < first.referenceDay

/-- A group has the findings of its asset, shown or hidden, and its score and its signals are of
all of them. -/
structure HoldsAsset (scale : Scale) (unicode : Unicode) (role : Option MembershipRole)
    (signals : List (Nat × List ReuseSignal)) (ofAsset : List BreachFinding) (group : ScoredGroup)
    (shown hidden : List BreachFinding) : Prop where
  all : (shown ++ hidden).Perm ofAsset
  shown_eq : shown.mapM (serializeFindingForFeed unicode role signals) = some group.findings
  shown_count : group.findingsShown = shown.length
  hidden_count : group.findingsHidden = hidden.length
  size : group.findingsShown + group.findingsHidden = group.score.findingsCount
  score : group.score =
    computeExposureScore scale.arithmetic scale.thresholds ofAsset scale.now
  signals : group.reuseSignals = (shown ++ hidden).flatMap fun finding =>
    (signalsFor signals finding).map (ReuseSignal.forViewer role)
  order : ∀ first ∈ shown, ∀ last ∈ hidden, ¬Fresher last first

/-- Each open finding is of one group, and nothing is left out of the counts. -/
structure HoldsEvery (scale : Scale) (backend : Backend) (workspace : Workspace) (tenant : Nat)
    (role : Option MembershipRole) (signals : List (Nat × List ReuseSignal)) (feed : ScoredFeed) :
    Prop where
  distinct : (feed.assets.map ScoredGroup.assetId).Nodup
  placed : ∀ finding, OpenOf workspace tenant finding →
    ∃ group ∈ feed.assets, group.assetId = finding.asset
  groups : ∀ group ∈ feed.assets, ∃ shown hidden,
    HoldsAsset scale backend.unicode role signals
      ((openFindings backend workspace tenant).filter fun finding => finding.asset = group.assetId)
      group shown hidden
  sizes : (feed.assets.map fun group => group.score.findingsCount).sum = feed.totalFindings
  total : feed.totalFindings = workspace.store.findings.rows.countP fun finding =>
    finding.tenant = tenant && finding.status = .open

/-- No asset of the tenant and no source of an account in clear is a malformed URL. -/
def UrlsReadable (backend : Backend) (workspace : Workspace) (tenant : Nat) : Prop :=
  (∀ asset ∈ workspace.assets, asset.tenant = tenant → ownDomains backend.unicode asset ≠ none) ∧
    ∀ finding, OpenOf workspace tenant finding →
      finding.sourceEndpoint ∈ identifierBearingEndpoints → finding.identifierPlain ≠ "" →
        identifierOf backend.unicode finding ≠ "" → findingDomain backend.unicode finding ≠ none

/-! ## When there is a feed -/

section Readable

variable {unicode : Unicode} {backend : Backend} {workspace : Workspace} {tenant : Nat}
  {relevant findings : List BreachFinding} {emails domains : List String} {assets : List Asset}
  {finding : BreachFinding}

theorem signalsOf_ne_none_iff :
    signalsOf unicode relevant emails domains finding ≠ none ↔
      (finding.identifierPlain ≠ "" → identifierOf unicode finding ≠ "" →
        findingDomain unicode finding ≠ none) := by
  rw [signalsOf]
  split
  · rename_i unusable
    refine iff_of_true (by rintro ⟨⟩) fun clear usable => ?_
    rcases Bool.or_eq_true_iff.mp unusable with plain | blank
    · exact absurd (of_decide_eq_true plain) clear
    · exact absurd (of_decide_eq_true blank) usable
  · rename_i usable
    rw [Bool.or_eq_true, decide_eq_true_eq, decide_eq_true_eq, not_or] at usable
    rw [ne_eq, Option.map_eq_none_iff]
    exact ⟨fun read _ _ => read, fun read => read usable.1 usable.2⟩

theorem correlate_ne_none_iff {tenantEmails : List String} :
    correlate unicode findings tenantEmails assets ≠ none ↔
      (∀ asset ∈ assets, ownDomains unicode asset ≠ none) ∧
        ∀ finding ∈ findings, finding.sourceEndpoint ∈ identifierBearingEndpoints →
          finding.identifierPlain ≠ "" → identifierOf unicode finding ≠ "" →
            findingDomain unicode finding ≠ none := by
  have owned : tenantDomains unicode assets ≠ none ↔
      ∀ asset ∈ assets, ownDomains unicode asset ≠ none := by
    rw [tenantDomains, ne_eq, Option.map_eq_none_iff]
    exact Outcome.mapM_ne_none_iff
  rw [← owned, correlate]
  cases tenantDomains unicode assets with
  | none => exact iff_of_false (fun ne => ne rfl) fun both => both.1 rfl
  | some domains =>
      have kept (collected : Option (List (Nat × List ReuseSignal))) :
          (collected.bind fun found => some (found.filter fun entry => !entry.2.isEmpty)) ≠ none ↔
            collected ≠ none := by
        cases collected <;> simp
      refine (kept _).trans (Outcome.mapM_ne_none_iff.trans ?_)
      refine Iff.trans ?_ (and_iff_right (by rintro ⟨⟩)).symm
      constructor
      · intro visited finding listed bearing
        have signalled := visited finding
          (List.mem_filter.mpr ⟨listed, List.contains_iff_mem.mpr bearing⟩)
        rw [ne_eq, Option.map_eq_none_iff] at signalled
        exact signalsOf_ne_none_iff.mp signalled
      · intro readable finding relevant
        obtain ⟨listed, bearing⟩ := List.mem_filter.mp relevant
        rw [ne_eq, Option.map_eq_none_iff]
        exact signalsOf_ne_none_iff.mpr
          (readable finding listed (List.contains_iff_mem.mp bearing))

/-- The signals of the open findings of a tenant. -/
def openSignals (backend : Backend) (workspace : Workspace) (tenant : Nat) :
    Option (List (Nat × List ReuseSignal)) :=
  correlate backend.unicode (openFindings backend workspace tenant)
    (tenantMemberEmails workspace tenant) (listAssets workspace tenant)

theorem openSignals_ne_none_iff :
    openSignals backend workspace tenant ≠ none ↔ UrlsReadable backend workspace tenant := by
  refine correlate_ne_none_iff.trans (and_congr ?_ (forall_congr' fun finding => ?_))
  · constructor
    · intro readable asset inside mine
      exact readable asset (List.mem_filter.mpr ⟨inside, decide_eq_true mine⟩)
    · intro readable asset listed
      obtain ⟨inside, mine⟩ := List.mem_filter.mp listed
      exact readable asset inside (of_decide_eq_true mine)
  · exact imp_congr_left mem_openFindings

theorem reuseByFinding_ne_none_iff :
    reuseByFinding backend workspace tenant ≠ none ↔
      (workspace.billing.hasFeature tenant Billing.reuseCorrelation = true →
        UrlsReadable backend workspace tenant) := by
  rw [← openSignals_ne_none_iff, reuseByFinding]
  split
  · rename_i offered
    exact (imp_iff_right offered).symm
  · rename_i skipped
    exact iff_of_true (by rintro ⟨⟩) fun offered => absurd offered skipped

end Readable

/-! ## What the feed holds -/

section Holds

variable {scale : Scale} {backend : Backend} {workspace : Workspace} {tenant asset : Nat}
  {role : Option MembershipRole} {signals : List (Nat × List ReuseSignal)}
  {findings : List BreachFinding}

theorem freshnessBefore_iff {first second : BreachFinding} :
    freshnessBefore first second = true ↔ ¬Fresher second first := by
  rw [freshnessBefore, Fresher, Bool.or_eq_true, Bool.and_eq_true]
  simp only [decide_eq_true_eq]
  omega

instance : Std.Total fun first second : BreachFinding => freshnessBefore first second = true where
  total first second := by
    rw [freshnessBefore_iff, freshnessBefore_iff, Fresher, Fresher]
    omega

instance : IsTrans BreachFinding fun first second => freshnessBefore first second = true where
  trans first second third := by
    rw [freshnessBefore_iff, freshnessBefore_iff, freshnessBefore_iff, Fresher, Fresher, Fresher]
    omega

theorem assetFindings_ordered (findings : List BreachFinding) (asset : Nat) :
    (assetFindings findings asset).Pairwise fun first last => ¬Fresher last first := by
  have sorted : (assetFindings findings asset).Pairwise fun first second =>
      freshnessBefore first second = true :=
    List.pairwise_insertionSort _ _
  exact sorted.imp fun before => freshnessBefore_iff.mp before

/-- A group holds the findings of its asset. -/
theorem holdsAsset_scoredGroup {unicode : Unicode} {group : ScoredGroup}
    (grouped : scoredGroup scale unicode workspace role signals findings asset = some group) :
    HoldsAsset scale unicode role signals (findings.filter fun finding => finding.asset = asset)
      group ((assetFindings findings asset).take maxFindingsParActif)
      ((assetFindings findings asset).drop maxFindingsParActif) := by
  have whole : (assetFindings findings asset).take maxFindingsParActif ++
      (assetFindings findings asset).drop maxFindingsParActif = assetFindings findings asset :=
    List.take_append_drop _ _
  have same : (assetFindings findings asset).Perm
      (findings.filter fun finding => finding.asset = asset) :=
    List.perm_insertionSort _ _
  obtain ⟨serialized, each, rfl⟩ := Option.map_eq_some_iff.mp grouped
  have shown : serialized.length =
      ((assetFindings findings asset).take maxFindingsParActif).length :=
    Outcome.length_of_mapM each
  have hidden : (assetFindings findings asset).length - serialized.length =
      ((assetFindings findings asset).drop maxFindingsParActif).length := by
    rw [shown, List.length_take, List.length_drop]
    omega
  exact {
    all := whole.symm ▸ same
    shown_eq := each
    shown_count := shown
    hidden_count := hidden
    size := by
      have counted : serialized.length + ((assetFindings findings asset).length -
          serialized.length) = (findings.filter fun finding => finding.asset = asset).length := by
        rw [hidden, shown, ← List.length_append, whole, same.length_eq]
      exact counted
    score := rfl
    signals := by rw [whole]
    order := fun first shown last hidden =>
      before_of_hidden (assetFindings_ordered findings asset) shown hidden }

theorem length_openFindings (backend : Backend) (workspace : Workspace) (tenant : Nat) :
    (openFindings backend workspace tenant).length =
      workspace.store.findings.rows.countP fun finding =>
        finding.tenant = tenant && finding.status = .open := by
  rw [openFindings_eq, (List.perm_insertionSort _ _).length_eq, ← List.countP_eq_length_filter]

/-- A feed that is built holds every open finding. -/
theorem holdsEvery_buildScoredFeed {feed : ScoredFeed}
    (computed : reuseByFinding backend workspace tenant = some signals)
    (built : buildScoredFeed scale backend workspace tenant role = some feed) :
    HoldsEvery scale backend workspace tenant role signals feed := by
  rw [buildScoredFeed, computed, Option.bind_some] at built
  obtain ⟨groups, grouped, rfl⟩ := Option.map_eq_some_iff.mp built
  have sorted : (groups.insertionSort groupBefore).Perm groups := List.perm_insertionSort _ _
  have assetOf {asset : Nat} {group : ScoredGroup}
      (each : scoredGroup scale backend.unicode workspace role signals
        (openFindings backend workspace tenant) asset = some group) : group.assetId = asset := by
    obtain ⟨_, _, rfl⟩ := Option.map_eq_some_iff.mp each
    rfl
  have assets : groups.map ScoredGroup.assetId =
      keys BreachFinding.asset (openFindings backend workspace tenant) :=
    (Outcome.map_of_mapM grouped fun _ _ each => assetOf each).trans (List.map_id _)
  have sizes : groups.map (fun group => group.score.findingsCount) =
      (keys BreachFinding.asset (openFindings backend workspace tenant)).map fun asset =>
        (members BreachFinding.asset (openFindings backend workspace tenant) asset).length := by
    refine Outcome.map_of_mapM grouped fun asset group each => ?_
    obtain ⟨_, _, rfl⟩ := Option.map_eq_some_iff.mp each
    rfl
  exact {
    distinct := by
      rw [(sorted.map ScoredGroup.assetId).nodup_iff, assets]
      exact nodup_keys _ _
    placed := by
      intro finding isOpen
      have known :
          finding.asset ∈ keys BreachFinding.asset (openFindings backend workspace tenant) :=
        mem_keys.mpr ⟨finding, mem_openFindings.mpr isOpen, rfl⟩
      obtain ⟨group, each⟩ := Outcome.exists_of_mapM grouped known
      exact ⟨group, sorted.mem_iff.mpr (Outcome.mem_of_mapM grouped known each), assetOf each⟩
    groups := by
      intro group listed
      obtain ⟨asset, _, each⟩ :=
        Outcome.exists_of_mem_mapM grouped (sorted.mem_iff.mp listed)
      rw [assetOf each]
      exact ⟨_, _, holdsAsset_scoredGroup each⟩
    sizes := by
      rw [(sorted.map fun group => group.score.findingsCount).sum_eq, sizes]
      exact sum_length_members BreachFinding.asset (openFindings backend workspace tenant)
    total := length_openFindings backend workspace tenant }

/-- The groups of the scored feed are those of the plain one, in the order of their scores. -/
theorem buildScoredFeed_groups {feed : ScoredFeed}
    (built : buildScoredFeed scale backend workspace tenant role = some feed) :
    ∃ plain, buildExposureFeed backend workspace tenant role = some plain ∧
      (feed.assets.map fun group =>
          (group.assetId, group.score.findingsCount, group.findings, group.reuseSignals)).Perm
        (plain.assets.map fun group =>
          (group.assetId, group.findingsCount, group.findings, group.reuseSignals.map Prod.snd)) ∧
      feed.totalFindings = plain.totalFindings := by
  obtain ⟨signals, computed, built⟩ := Option.bind_eq_some_iff.mp built
  obtain ⟨groups, grouped, rfl⟩ := Option.map_eq_some_iff.mp built
  -- one asset at a time the two feeds show the same
  have agree (asset : Nat) :
      (scoredGroup scale backend.unicode workspace role signals
          (openFindings backend workspace tenant) asset).map (fun group =>
            (group.assetId, group.score.findingsCount, group.findings, group.reuseSignals)) =
        (feedGroup backend.unicode (openFindings backend workspace tenant) signals role
          asset).map fun group =>
            (group.assetId, group.findingsCount, group.findings,
              group.reuseSignals.map Prod.snd) := by
    have size : (members BreachFinding.asset (openFindings backend workspace tenant) asset).length =
        (assetFindings (openFindings backend workspace tenant) asset).length :=
      (List.perm_insertionSort _ _).length_eq.symm
    simp only [scoredGroup, feedGroup, visibleFindings, computeExposureScore, size, Option.map_map,
      Function.comp_def, List.map_flatMap, List.map_map]
  have same := Outcome.map_mapM (scoredGroup scale backend.unicode workspace role signals
    (openFindings backend workspace tenant)) (fun group =>
      (group.assetId, group.score.findingsCount, group.findings, group.reuseSignals))
    (keys BreachFinding.asset (openFindings backend workspace tenant))
  simp only [agree] at same
  rw [← Outcome.map_mapM, grouped, Option.map_some] at same
  obtain ⟨plain, plainly, shown⟩ := Option.map_eq_some_iff.mp same.symm
  refine ⟨⟨plain, (openFindings backend workspace tenant).length⟩, ?_, ?_, rfl⟩
  · rw [buildExposureFeed, computed, Option.bind_some]
    exact Option.map_eq_some_iff.mpr ⟨plain, plainly, rfl⟩
  · exact ((List.perm_insertionSort _ _).map _).trans (.of_eq shown.symm)

theorem buildScoredFeed_ne_none_iff :
    buildScoredFeed scale backend workspace tenant role ≠ none ↔
      reuseByFinding backend workspace tenant ≠ none ∧ SizesShown backend workspace tenant := by
  rw [buildScoredFeed]
  cases reuseByFinding backend workspace tenant with
  | none => exact iff_of_false (fun ne => ne rfl) fun both => both.1 rfl
  | some signals =>
      rw [Option.bind_some, ne_eq, Option.map_eq_none_iff, ← ne_eq, Outcome.mapM_ne_none_iff,
        and_iff_right (by rintro ⟨⟩), sizesShown_iff role signals]
      simp only [keys, List.mem_eraseDups, scoredGroup, visibleFindings, ne_eq,
        Option.map_eq_none_iff]

/-- In the feed of a tenant each open finding is of one group, whose counts, score and signals are
of all its findings and which shows the first ones, exactly when no malformed URL stops
`correlate` and the size of no shown document is out of range. -/
theorem feed_holds_every_iff (scale : Scale) (backend : Backend) (workspace : Workspace)
    (tenant : Nat) (role : Option MembershipRole) :
    (∃ feed signals, buildScoredFeed scale backend workspace tenant role = some feed ∧
      reuseByFinding backend workspace tenant = some signals ∧
        HoldsEvery scale backend workspace tenant role signals feed) ↔
      (workspace.billing.hasFeature tenant Billing.reuseCorrelation = true →
        UrlsReadable backend workspace tenant) ∧ SizesShown backend workspace tenant := by
  have whole : buildScoredFeed scale backend workspace tenant role ≠ none ↔ _ :=
    buildScoredFeed_ne_none_iff
  rw [← reuseByFinding_ne_none_iff, ← whole]
  constructor
  · rintro ⟨feed, signals, built, _, _⟩
    rw [built]
    rintro ⟨⟩
  · intro returned
    obtain ⟨signals, computed⟩ := Option.ne_none_iff_exists'.mp (whole.mp returned).1
    obtain ⟨feed, built⟩ := Option.ne_none_iff_exists'.mp returned
    exact ⟨feed, signals, built, computed, holdsEvery_buildScoredFeed computed built⟩

end Holds

/-! One credential of a member, in a leak whose source is a broken URL. -/

def brokenSource (key : Nat) : BreachFinding :=
  { leakedAccount key with
    rawData := .obj [("eml", .str "jean@acme.fr"), ("src", .str "https://[forum.example")] }

def correlatedPlan (key : Nat) : Billing.Plan :=
  { id := key, code := "pro", name := "Pro", tagline := "", description := ""
    priceMonthly := 100, priceYearly := 1000, currency := "EUR", isQuoteOnly := false
    status := .published, displayOrder := 0, isHighlighted := false
    monitoredAssets := 1, monthlyScans := 5, maxUsers := 3
    features := [Billing.reuseCorrelation] }

def correlatedSubscription (key : Nat) : Billing.Subscription :=
  { id := key, tenant := 1, plan := 0, status := .active, period := .monthly, startedAt := 0
    trialEndsAt := none, renewsAt := none, endsAt := none
    overrideMonitoredAssets := none, overrideMonthlyScans := none, overrideMaxUsers := none
    overrideFeatures := none }

def acmeAsset (key : Nat) : Asset := ⟨key, 1, .website, "https://acme.fr", true⟩

theorem ident_brokenSource (key : Nat) : ident (brokenSource key) = key := rfl

theorem ident_acmeAsset (key : Nat) : ident (acmeAsset key) = key := rfl

theorem ident_correlatedPlan (key : Nat) : ident (correlatedPlan key) = key := rfl

theorem ident_correlatedSubscription (key : Nat) : ident (correlatedSubscription key) = key := rfl

def brokenWorkspace : Workspace :=
  { store :=
      { findings := Table.empty.create brokenSource ident_brokenSource
        alerts := Table.empty
        syntheses := Table.empty }
    assets := Table.empty.create acmeAsset ident_acmeAsset
    members := Table.empty
    billing :=
      { plans := Table.empty.create correlatedPlan ident_correlatedPlan
        subscriptions := Table.empty.create correlatedSubscription ident_correlatedSubscription
        events := [] } }

/-- One broken URL of a provider takes the whole feed away. -/
theorem broken_url_stops_feed :
    ¬∃ feed signals,
      buildScoredFeed ⟨exactly, ⟨20, 50, 75⟩, 20⟩ asciiBackend brokenWorkspace 1 none = some feed ∧
        reuseByFinding asciiBackend brokenWorkspace 1 = some signals ∧
          HoldsEvery ⟨exactly, ⟨20, 50, 75⟩, 20⟩ asciiBackend brokenWorkspace 1 none signals
            feed := by
  rintro ⟨_, signals, _, computed, _⟩
  have stopped : reuseByFinding asciiBackend brokenWorkspace 1 = none := by
    decide +kernel
  rw [stopped] at computed
  cases computed

end RssiService.ThreatIntelligence
