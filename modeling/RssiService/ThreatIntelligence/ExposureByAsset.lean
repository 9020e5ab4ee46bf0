import RssiService.ThreatIntelligence.OpenFindings
import RssiService.ThreatIntelligence.ScoredFeed

/-!
# The exposure of the report

The report scores the findings that were open at an instant, from rows and asset by asset.
At the present instant it is to show what the feed shows from the findings themselves.
-/

namespace RssiService.ThreatIntelligence

open Foundation Foundation.Grouping Python
open Monitoring (Asset)

/-! ## The scores of rows -/

/-- The findings open at an instant, the last detected first. -/
def openAtRows (store : Store) (tenant moment : Nat) : List BreachFinding :=
  (store.findings.rows.filter (openAt tenant moment)).insertionSort
    fun first second => second.detectedAt ≤ first.detectedAt

def exposureScoreAt (store : Store) (tenant moment : Nat) : Int :=
  scoreFromRows ((openAtRows store tenant moment).map annotateRevealable) moment

structure AssetExposure where
  assetId : Nat
  assetValue : String
  findingsCount : Nat
  score : Int

/-- The highest score first, then the most findings. -/
def exposureBefore (first second : AssetExposure) : Prop :=
  second.score < first.score ∨
    second.score = first.score ∧ second.findingsCount ≤ first.findingsCount

instance : DecidableRel exposureBefore := fun first second =>
  inferInstanceAs (Decidable (second.score < first.score ∨
    second.score = first.score ∧ second.findingsCount ≤ first.findingsCount))

/-- The entry of an asset, from the rows that were gathered for it. -/
def assetExposure (assets : Table Asset) (findings : List BreachFinding) (moment asset : Nat) :
    AssetExposure :=
  let rows := members BreachFinding.asset findings asset
  { assetId := asset
    assetValue := ((assets.find? asset).map Asset.value).getD ""
    findingsCount := rows.length
    score := scoreFromRows (rows.map annotateRevealable) moment }

def exposureByAsset (assets : Table Asset) (store : Store) (tenant moment : Nat) :
    List AssetExposure :=
  let findings := openAtRows store tenant moment
  ((keys BreachFinding.asset findings).map (assetExposure assets findings moment)).insertionSort
    exposureBefore

/-! ## What the report agrees with -/

/-- Nothing was detected or closed after the instant. -/
def Dated (moment : Nat) (finding : BreachFinding) : Prop :=
  finding.detectedAt ≤ moment ∧
    (finding.status ≠ .open → ∀ treated ∈ finding.treatedAt, treated ≤ moment)

/-- What the report takes from a group of the feed. -/
def ScoredGroup.exposure (group : ScoredGroup) : AssetExposure :=
  ⟨group.assetId, group.assetValue, group.score.findingsCount, group.score.score⟩

section Agreement

variable {assets : Table Asset} {store : Store} {tenant moment : Nat}
  {findings others : List BreachFinding}

theorem openAt_of_dated {finding : BreachFinding} (dated : Dated moment finding) :
    openAt tenant moment finding = (finding.tenant = tenant && finding.status = .open) := by
  obtain ⟨detected, closed⟩ := dated
  rw [openAt, decide_eq_true detected, Bool.and_true]
  congr 1
  by_cases isOpen : finding.status = .open
  · rw [decide_eq_true isOpen, Bool.true_or]
  · rw [decide_eq_false isOpen, Bool.false_or, Option.any_eq_false]
    intro treated known
    simpa using closed isOpen treated known

theorem perm_keys (same : findings.Perm others) :
    (keys BreachFinding.asset findings).Perm (keys BreachFinding.asset others) := by
  refine (List.perm_ext_iff_of_nodup (nodup_keys _ _) (nodup_keys _ _)).mpr fun asset => ?_
  simp only [mem_keys, same.mem_iff]

/-- The order of the rows does not matter, and the rows score what the findings score. -/
theorem assetExposure_eq_of_perm (same : findings.Perm others) (thresholds : LevelThresholds)
    (asset : Nat) :
    assetExposure assets findings moment asset =
      { assetId := asset
        assetValue := ((assets.find? asset).map Asset.value).getD ""
        findingsCount := (members BreachFinding.asset others asset).length
        score := (computeExposureScore exactly thresholds
          (members BreachFinding.asset others asset) moment).score } := by
  have kept : (members BreachFinding.asset findings asset).Perm
      (members BreachFinding.asset others asset) := same.filter _
  rw [assetExposure, scoreFromRows_eq, kept.length_eq,
    score_eq_of_perm kept]

theorem perm_openAtRows :
    (openAtRows store tenant moment).Perm (store.findings.rows.filter (openAt tenant moment)) :=
  List.perm_insertionSort _ _

theorem exposureScoreAt_eq (thresholds : LevelThresholds) :
    exposureScoreAt store tenant moment =
      (computeExposureScore exactly thresholds (openAtRows store tenant moment) moment).score :=
  scoreFromRows_eq

/-- An asset does not score more than its tenant. -/
theorem assetExposure_score_le (asset : Nat) :
    (assetExposure assets (openAtRows store tenant moment) moment asset).score ≤
      exposureScoreAt store tenant moment := by
  have thresholds : LevelThresholds := ⟨0, 0, 0⟩
  rw [assetExposure_eq_of_perm (.refl _) thresholds, exposureScoreAt_eq thresholds]
  exact score_le_of_below (below_sublist List.filter_sublist)

end Agreement

end RssiService.ThreatIntelligence
