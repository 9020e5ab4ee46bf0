import Mathlib.Data.Prod.Lex
import RssiService.Foundation.Grouping
import RssiService.Python.Integers
import RssiService.ThreatIntelligence.WatchedFindings

/-!
# Groups of findings on watched accounts

The findings of a client are shown by account, type of leak and service of
origin.  A group is asked for by a key that joins the three, and the view
splits it again.
-/

namespace RssiService.ThreatIntelligence

open Foundation Foundation.Grouping Python

/-- The weight of a severity in the groups: the gravest weighs most. -/
def groupSeverityRank : Severity → Nat
  | .critical => 3
  | .high => 2
  | .attention => 1

/-- `par_rang.get(rang, "")`. -/
def severityOfRank (rank : Nat) : Option Severity :=
  [Severity.critical, .high, .attention].find? fun severity => groupSeverityRank severity = rank

/-- What findings are grouped by. -/
structure GroupBy where
  account : Nat
  findingType : String
  service : String
  deriving DecidableEq, Repr

structure WatchedGroup where
  key : String
  accountId : Nat
  accountValue : String
  accountLabel : String
  findingType : String
  service : String
  occurrences : Nat
  openCount : Nat
  treatedCount : Nat
  ignoredCount : Nat
  severity : Option Severity
  latestBreachDate : Option Date
  oldestBreachDate : Option Date
  lastDetectedAt : Option Nat

/-- Why the detail of a group is not shown. -/
inductive GroupRefusal where
  /-- « Groupe illisible. » -/
  | unreadable
  /-- The account of the key is no number: `ValueError`. -/
  | notANumber
  deriving DecidableEq, Repr

section Groups

-- The text of a field of a JSON value, as the database reads it (`->>`).
variable (keyText : Json → String → Option String)

/-- The site of a stolen cookie, or the leak that a password comes from. -/
def serviceExpression (rawData : Json) : String :=
  let nullIf := fun text : Option String => text.filter (· ≠ "")
  ((nullIf (keyText rawData "dom")).or (nullIf (keyText rawData "src"))).getD ""

def WatchedAccountFinding.groupBy (finding : WatchedAccountFinding) : GroupBy :=
  ⟨finding.account, finding.findingType, serviceExpression keyText finding.rawData⟩

def GroupBy.key (group : GroupBy) : String :=
  toString group.account ++ "|" ++ group.findingType ++ "|" ++ group.service

/-- The row of a group.  The account of a finding exists: it is a foreign key. -/
def watchedGroup (store : WatchedStore) (findings : List WatchedAccountFinding)
    (group : GroupBy) : WatchedGroup :=
  let rows := members (WatchedAccountFinding.groupBy keyText) findings group
  let account := store.accounts.find? group.account
  let dates := rows.filterMap fun row => row.breachDate
  { key := group.key
    accountId := group.account
    accountValue := (account.map fun row => row.value).getD ""
    accountLabel := (account.map fun row => row.label).getD ""
    findingType := group.findingType
    service := group.service
    occurrences := rows.length
    openCount := rows.countP fun row => row.status = .open
    treatedCount := rows.countP fun row => row.status = .treated
    ignoredCount := rows.countP fun row => row.status = .ignored
    severity := (rows.map fun row => groupSeverityRank row.severity).max?.bind severityOfRank
    latestBreachDate := dates.argmax Date.ordinal
    oldestBreachDate := dates.argmin Date.ordinal
    lastDetectedAt := (rows.map fun row => row.detectedAt).max? }

/-- What the groups are sorted by: severity, latest leak and occurrences. -/
def WatchedGroup.sortKey (group : WatchedGroup) : Nat ×ₗ Nat ×ₗ Nat :=
  toLex ((group.severity.map groupSeverityRank).getD 0,
    toLex ((group.latestBreachDate.map Date.ordinal).getD 1, group.occurrences))

def groupWatchedAccountFindings (store : WatchedStore) (findings : List WatchedAccountFinding) :
    List WatchedGroup :=
  ((keys (WatchedAccountFinding.groupBy keyText) findings).map
    (watchedGroup keyText store findings)).mergeSort
      fun first second => second.sortKey ≤ first.sortKey

/-- The detail of a group, once unfolded. -/
def findingsInGroup (findings : List WatchedAccountFinding) (account : Int)
    (findingType service : String) : List WatchedAccountFinding :=
  (findings.filter fun row =>
    (row.account : Int) = account && row.findingType = findingType &&
      serviceExpression keyText row.rawData = service).mergeSort WatchedStore.latestLeakFirst

/-- `groupe.split("|", 2)`, where it gives three parts. -/
def splitGroup (group : String) : Option (String × String × String) :=
  let (account, parted, rest) := partition '|' group.toList
  let (findingType, partedAgain, service) := partition '|' rest
  if parted && partedAgain then
    some (String.ofList account, String.ofList findingType, String.ofList service)
  else none

/-- The list view asked for a group.  The keys of the accounts are far shorter than the
texts that `int` refuses for their length. -/
def watchedGroupDetail (findings : List WatchedAccountFinding) (group : String) :
    Except GroupRefusal (List WatchedAccountFinding) :=
  match splitGroup group with
  | none => .error .unreadable
  | some (account, findingType, service) =>
      match (numeral account).map Numeral.value with
      | none => .error .notANumber
      | some account => .ok (findingsInGroup keyText findings account findingType service)

end Groups

/-! ## The key of a group -/

section Keys

variable {keyText : Json → String → Option String} {findings : List WatchedAccountFinding}

theorem splitGroup_key {group : GroupBy} (bare : '|' ∉ group.findingType.toList) :
    splitGroup group.key = some (toString group.account, group.findingType, group.service) := by
  have account : '|' ∉ (toString group.account).toList := by
    rw [Nat.toString_eq_repr, Nat.toList_repr]
    intro inside
    exact absurd (Nat.isDigit_of_mem_toDigits (by decide) (by decide) inside) (by decide)
  have spelled : group.key.toList = (toString group.account).toList ++
      '|' :: (group.findingType.toList ++ '|' :: group.service.toList) := by
    simp [GroupBy.key]
  rw [splitGroup, spelled, partition_append account]
  dsimp only
  rw [partition_append bare]
  simp only [Bool.and_self, if_true, String.ofList_toList]

/-- The type that a key is split into holds no separator. -/
theorem bare_of_splitGroup {key account findingType service : String}
    (split : splitGroup key = some (account, findingType, service)) :
    '|' ∉ findingType.toList := by
  rw [splitGroup] at split
  dsimp only at split
  split at split
  · cases split
    rw [String.toList_ofList]
    exact not_mem_partition _ _
  · cases split

/-- The detail by a key without a separator in its type is its group. -/
theorem detail_key {group : GroupBy} (bare : '|' ∉ group.findingType.toList) :
    watchedGroupDetail keyText findings group.key =
      .ok (findingsInGroup keyText findings group.account group.findingType group.service) := by
  have account := numeral_toString group.account
  rw [watchedGroupDetail, splitGroup_key bare]
  dsimp only
  rw [account]

theorem findingsInGroup_perm (group : GroupBy) :
    (findingsInGroup keyText findings group.account group.findingType group.service).Perm
      (members (WatchedAccountFinding.groupBy keyText) findings group) := by
  refine (List.mergeSort_perm _ _).trans (List.Perm.of_eq ?_)
  rw [members]
  refine List.filter_congr fun row _ => ?_
  have same : row.groupBy keyText = group ↔ row.account = group.account ∧
      row.findingType = group.findingType ∧
        serviceExpression keyText row.rawData = group.service := by
    cases group
    rw [WatchedAccountFinding.groupBy, GroupBy.mk.injEq]
  rw [Bool.eq_iff_iff]
  simp only [same, Bool.and_eq_true, decide_eq_true_eq, Int.natCast_inj, and_assoc]

/-- The findings of a detail are of the type that the key was split into. -/
theorem bare_of_mem_detail {key : String} {detail : List WatchedAccountFinding}
    (shown : watchedGroupDetail keyText findings key = .ok detail)
    {finding : WatchedAccountFinding} (inside : finding ∈ detail) :
    '|' ∉ finding.findingType.toList := by
  rw [watchedGroupDetail] at shown
  split at shown
  · cases shown
  · rename_i account findingType service split
    split at shown
    · cases shown
    · cases shown
      rw [findingsInGroup, List.mem_mergeSort, List.mem_filter] at inside
      have typed : finding.findingType = findingType := by
        have same := inside.2
        simp only [Bool.and_eq_true, decide_eq_true_eq] at same
        exact same.1.2
      rw [typed]
      exact bare_of_splitGroup split

end Keys

/-! ## What the groups are to the findings -/

section Partition

variable (keyText : Json → String → Option String)

def WatchedGroup.Holds (group : WatchedGroup) (finding : WatchedAccountFinding) : Prop :=
  finding.account = group.accountId ∧ finding.findingType = group.findingType ∧
    serviceExpression keyText finding.rawData = group.service

instance (group : WatchedGroup) (finding : WatchedAccountFinding) :
    Decidable (group.Holds keyText finding) :=
  inferInstanceAs (Decidable (_ ∧ _ ∧ _))

/-- The group has the severity of its gravest finding. -/
def WatchedGroup.IsGravest (group : WatchedGroup) (findings : List WatchedAccountFinding) :
    Prop :=
  ∃ finding ∈ findings, group.Holds keyText finding ∧ group.severity = some finding.severity ∧
    ∀ other ∈ findings, group.Holds keyText other →
      groupSeverityRank other.severity ≤ groupSeverityRank finding.severity

/-- Each finding is in one group, the occurrences are those of the findings, and the severity
is that of the gravest. -/
structure Partitioned (findings : List WatchedAccountFinding) (groups : List WatchedGroup) :
    Prop where
  one : ∀ finding ∈ findings, ∃! group, group ∈ groups ∧ group.Holds keyText finding
  occurrences : ∀ group ∈ groups,
    group.occurrences = findings.countP fun finding => group.Holds keyText finding
  total : (groups.map WatchedGroup.occurrences).sum = findings.length
  gravest : ∀ group ∈ groups, group.IsGravest keyText findings

/-- The key of the group gives its findings back. -/
def WatchedGroup.AskedBack (group : WatchedGroup) (findings : List WatchedAccountFinding) : Prop :=
  ∃ detail, watchedGroupDetail keyText findings group.key = .ok detail ∧
    detail.Perm (findings.filter fun finding => group.Holds keyText finding)

variable {keyText} {store : WatchedStore} {findings : List WatchedAccountFinding}

theorem mem_groups {group : WatchedGroup} :
    group ∈ groupWatchedAccountFindings keyText store findings ↔
      ∃ value ∈ keys (WatchedAccountFinding.groupBy keyText) findings,
        watchedGroup keyText store findings value = group := by
  rw [groupWatchedAccountFindings, List.mem_mergeSort, List.mem_map]

theorem holds_iff {value : GroupBy} {finding : WatchedAccountFinding} :
    (watchedGroup keyText store findings value).Holds keyText finding ↔
      finding.groupBy keyText = value := by
  cases value
  rw [WatchedAccountFinding.groupBy, GroupBy.mk.injEq]
  rfl

theorem filter_holds (value : GroupBy) :
    (findings.filter fun finding =>
        (watchedGroup keyText store findings value).Holds keyText finding) =
      members (WatchedAccountFinding.groupBy keyText) findings value := by
  rw [members]
  exact List.filter_congr fun finding _ => decide_eq_decide.mpr holds_iff

theorem severityOfRank_groupSeverityRank (severity : Severity) :
    severityOfRank (groupSeverityRank severity) = some severity := by
  cases severity <;> rfl

theorem isGravest_watchedGroup {value : GroupBy}
    (listed : value ∈ keys (WatchedAccountFinding.groupBy keyText) findings) :
    (watchedGroup keyText store findings value).IsGravest keyText findings := by
  let ranks := (members (WatchedAccountFinding.groupBy keyText) findings value).map
    fun row => groupSeverityRank row.severity
  have filled : ranks ≠ [] := by
    rw [ne_eq, List.map_eq_nil_iff]
    exact members_ne_nil_iff.mpr listed
  obtain ⟨highest, top⟩ := Option.isSome_iff_exists.mp (List.isSome_max?_of_ne_nil filled)
  obtain ⟨inside, bound⟩ := List.max?_eq_some_iff.mp top
  obtain ⟨finding, member, rank⟩ := List.mem_map.mp inside
  obtain ⟨known, grouped⟩ := mem_members.mp member
  refine ⟨finding, known, holds_iff.mpr grouped, ?_, ?_⟩
  · have severity : (watchedGroup keyText store findings value).severity =
        ranks.max?.bind severityOfRank := rfl
    rw [severity, top, Option.bind_some, ← rank, severityOfRank_groupSeverityRank]
  · intro other otherKnown otherHeld
    rw [rank]
    exact bound _ (List.mem_map.mpr
      ⟨other, mem_members.mpr ⟨otherKnown, holds_iff.mp otherHeld⟩, rfl⟩)

/-- Whatever the findings, their groups part them. -/
theorem partitioned (store : WatchedStore) (findings : List WatchedAccountFinding) :
    Partitioned keyText findings (groupWatchedAccountFindings keyText store findings) where
  one finding known := by
    refine ⟨watchedGroup keyText store findings (finding.groupBy keyText), ⟨?_, ?_⟩, ?_⟩
    · exact mem_groups.mpr ⟨_, mem_keys.mpr ⟨finding, known, rfl⟩, rfl⟩
    · exact holds_iff.mpr rfl
    · rintro group ⟨listed, held⟩
      obtain ⟨value, _, rfl⟩ := mem_groups.mp listed
      rw [holds_iff.mp held]
  occurrences group listed := by
    obtain ⟨value, _, rfl⟩ := mem_groups.mp listed
    rw [List.countP_eq_length_filter, filter_holds]
    rfl
  total := by
    have same := List.mergeSort_perm
      ((keys (WatchedAccountFinding.groupBy keyText) findings).map
        (watchedGroup keyText store findings))
      (fun first second => decide (second.sortKey ≤ first.sortKey))
    rw [groupWatchedAccountFindings, (same.map WatchedGroup.occurrences).sum_eq, List.map_map]
    exact sum_length_members (WatchedAccountFinding.groupBy keyText) findings
  gravest group listed := by
    obtain ⟨value, valueListed, rfl⟩ := mem_groups.mp listed
    exact isGravest_watchedGroup valueListed

theorem askedBack_of_bare {value : GroupBy} (bare : '|' ∉ value.findingType.toList) :
    (watchedGroup keyText store findings value).AskedBack keyText findings := by
  refine ⟨_, detail_key bare, ?_⟩
  rw [filter_holds]
  exact findingsInGroup_perm value

theorem bare_of_askedBack {group : WatchedGroup} (back : group.AskedBack keyText findings)
    {finding : WatchedAccountFinding} (known : finding ∈ findings)
    (held : group.Holds keyText finding) : '|' ∉ finding.findingType.toList := by
  obtain ⟨detail, shown, same⟩ := back
  exact bare_of_mem_detail shown
    (same.mem_iff.mpr (List.mem_filter.mpr ⟨known, decide_eq_true held⟩))

end Partition

/-- For every client and filter, the groups part the findings that are listed, and the key of
each gives its findings back exactly when no type of leak listed holds a separator. -/
theorem groups_askedBack_iff (keyText : Json → String → Option String) (unicode : Unicode)
    (store : WatchedStore) (tenant : Nat) (filters : WatchedFindingFilters) :
    (Partitioned keyText (store.listWatchedAccountFindings unicode tenant filters)
        (groupWatchedAccountFindings keyText store
          (store.listWatchedAccountFindings unicode tenant filters)) ∧
      ∀ group ∈ groupWatchedAccountFindings keyText store
          (store.listWatchedAccountFindings unicode tenant filters),
        group.AskedBack keyText (store.listWatchedAccountFindings unicode tenant filters)) ↔
      ∀ finding ∈ store.listWatchedAccountFindings unicode tenant filters,
        '|' ∉ finding.findingType.toList := by
  rw [and_iff_right (partitioned store _)]
  constructor
  · intro back finding known
    obtain ⟨group, ⟨listed, held⟩, _⟩ := (partitioned store _).one finding known
    exact bare_of_askedBack (back group listed) known held
  · intro bare group listed
    obtain ⟨value, valueListed, rfl⟩ := mem_groups.mp listed
    obtain ⟨finding, known, rfl⟩ := mem_keys.mp valueListed
    exact askedBack_of_bare (bare finding known)

/-! A machine that two pieces of malware were found on. -/

/-- The fields that are texts. -/
def textField (rawData : Json) (field : String) : Option String :=
  match rawData.get field with
  | .str text => some text
  | _ => none

def stolenByTwo (_ : Nat) : ProviderAnswer :=
  .answered [{ endpoint := "stealer"
               payload := [("eml", .str "jean@acme.fr"), ("mal", .str "Lumma|Stealc"),
                 ("src", .str "https://forum.example")]
               isTest := false }] 1 0

/-- Declared and scanned. -/
def stolenByTwoStore : WatchedStore :=
  Run.after (WatchedStore.step plainRuntime) (.empty watchingOffer)
    [.declare 1 directorAccount, .scan 1 0 [] stolenByTwo]

def allFindings : WatchedFindingFilters := ⟨none, none, none, none, none, none⟩

/-- The key of its group does not give it back. -/
theorem two_malwares_are_not_given_back :
    ¬ (Partitioned textField
        (stolenByTwoStore.listWatchedAccountFindings plainRuntime.unicode 1 allFindings)
        (groupWatchedAccountFindings textField stolenByTwoStore
          (stolenByTwoStore.listWatchedAccountFindings plainRuntime.unicode 1 allFindings)) ∧
      ∀ group ∈ groupWatchedAccountFindings textField stolenByTwoStore
          (stolenByTwoStore.listWatchedAccountFindings plainRuntime.unicode 1 allFindings),
        group.AskedBack textField
          (stolenByTwoStore.listWatchedAccountFindings plainRuntime.unicode 1 allFindings)) := by
  rintro ⟨parted, back⟩
  have types : (stolenByTwoStore.listWatchedAccountFindings plainRuntime.unicode 1 allFindings).map
      (fun finding => finding.findingType) = ["Lumma|Stealc"] := by
    decide +kernel
  obtain ⟨finding, known, typed⟩ := List.mem_map.mp
    (types ▸ List.mem_singleton_self "Lumma|Stealc")
  obtain ⟨group, ⟨listed, held⟩, _⟩ := parted.one finding known
  have bare := bare_of_askedBack (back group listed) known held
  rw [typed] at bare
  exact bare (by decide)

end RssiService.ThreatIntelligence
