import RssiService.Foundation.RankedSum
import RssiService.ThreatIntelligence.SecretLifecycle

/-!
# The exposure score

The open findings of an asset are weighed by their severity and their age, from
the heaviest to the lightest, and each one counts less than the one before.  The
score never rises when a finding is closed, when time passes, or when a secret
is purged.  Instants count microseconds.
-/

namespace RssiService.ThreatIntelligence

open Foundation Foundation.RankedSum Python
open Accounts (microsecondsPerSecond)
open Billing (microsecondsPerDay)

/-! ## Constants -/

def maxScore : Int := 100

inductive ExposureLevel where
  | calm
  | watch
  | concerning
  | critical
  deriving DecidableEq, Repr

def ExposureLevel.value : ExposureLevel → String
  | .calm => "calme"
  | .watch => "a_surveiller"
  | .concerning => "preoccupant"
  | .critical => "critique"

def levelLabels : ExposureLevel → String
  | .calm => "Calme"
  | .watch => "À surveiller"
  | .concerning => "Préoccupant"
  | .critical => "Critique"

/-- `EXPOSURE_LEVEL_THRESHOLDS`. -/
structure LevelThresholds where
  watch : Int
  concerning : Int
  critical : Int

def severityWeights : Severity → ℚ
  | .critical => 40
  | .high => 22
  | .attention => 8

structure FreshnessTier where
  maxDays : Int
  multiplier : ℚ
  label : String

def freshnessTiers : List FreshnessTier :=
  [{ maxDays := 30, multiplier := 1, label := "moins d'un mois" },
    { maxDays := 90, multiplier := 85 / 100, label := "moins de trois mois" },
    { maxDays := 365, multiplier := 6 / 10, label := "moins d'un an" }]

def freshnessOldMultiplier : ℚ := 35 / 100

def freshnessOldLabel : String := "plus d'un an"

def revealableSecretBonus : ℚ := 10

def additionalFindingDecay : ℚ := 6 / 10

/-- The label of a severity, in lower case. -/
def Severity.labelLower : Severity → String
  | .critical => "critique"
  | .high => "élevée"
  | .attention => "attention"

/-! ## Arithmetic -/

/-- The arithmetic of a score: how a result is rounded, and the powers of the
decay.  Floats round every result to the nearest one they have. -/
structure Arithmetic where
  round : ℚ → ℚ
  decay : ℕ → ℚ
  monotone : Monotone round
  round_zero : round 0 = 0
  round_round : ∀ x, round (round x) = round x
  decay_nonneg : ∀ rank, 0 ≤ decay rank

/-- Exact numbers. -/
def exactly : Arithmetic where
  round := id
  decay rank := additionalFindingDecay ^ rank
  monotone := monotone_id
  round_zero := rfl
  round_round _ := rfl
  decay_nonneg rank := pow_nonneg (by norm_num [additionalFindingDecay]) rank

/-! ## One finding -/

/-- The days since the leak, or since it was detected; a future one counts as today. -/
def BreachFinding.ageDays (finding : BreachFinding) (now : Nat) : Int :=
  let ageDays : Int :=
    match finding.breachDate with
    | some reference => dayOrdinal (now / microsecondsPerSecond) - reference.ordinal
    | none => ((now : Int) - finding.detectedAt) / microsecondsPerDay
  max 0 ageDays

/-- The tier of a finding, by its age. -/
def freshness (finding : BreachFinding) (now : Nat) : ℚ × String :=
  match freshnessTiers.find? fun tier => finding.ageDays now < tier.maxDays with
  | some tier => (tier.multiplier, tier.label)
  | none => (freshnessOldMultiplier, freshnessOldLabel)

/-- The finding has a secret that can be read again. -/
def BreachFinding.isRevealable (finding : BreachFinding) : Bool :=
  finding.hasSecret && finding.encrypted ≠ ""

variable (arithmetic : Arithmetic)

/-- A finding with what it weighs before the decay. -/
structure ScoredFinding where
  raw : ℚ
  freshnessLabel : String
  finding : BreachFinding

def scoreFinding (now : Nat) (finding : BreachFinding) : ScoredFinding :=
  let (multiplier, freshnessLabel) := freshness finding now
  let raw := arithmetic.round (severityWeights finding.severity * arithmetic.round multiplier)
  { raw := if finding.isRevealable then arithmetic.round (raw + revealableSecretBonus) else raw
    freshnessLabel
    finding }

/-- What a finding counts at its rank. -/
def decayed (rank : ℕ) (raw : ℚ) : ℚ :=
  arithmetic.round (raw * arithmetic.decay rank)

/-! ## The score -/

structure ScoreComponent where
  findingId : Nat
  label : String
  severity : Severity
  points : Int
  detail : String
  deriving DecidableEq, Repr

structure ExposureScore where
  score : Int
  level : ExposureLevel
  levelLabel : String
  components : List ScoreComponent
  findingsCount : Nat

def levelFor (thresholds : LevelThresholds) (score : Int) : ExposureLevel :=
  if thresholds.critical ≤ score then .critical
  else if thresholds.concerning ≤ score then .concerning
  else if thresholds.watch ≤ score then .watch
  else .calm

def detailParts (scored : ScoredFinding) (rank : ℕ) : List String :=
  [s!"gravité {scored.finding.severity.labelLower}", s!"fuite {scored.freshnessLabel}"] ++
    (if scored.finding.isRevealable then ["mot de passe récupérable"] else []) ++
    if 0 < rank then [s!"{rank + 1}e fuite sur cet actif, pondérée à la baisse"] else []

/-- The line that explains a finding; one of no point explains nothing. -/
def component? (scored : ScoredFinding) (rank : ℕ) : Option ScoreComponent :=
  let points := roundHalfEven (decayed arithmetic rank scored.raw)
  if points ≤ 0 then none
  else
    some
      { findingId := scored.finding.id
        label := scored.finding.sourceEndpoint.label
        severity := scored.finding.severity
        points
        detail := ", ".intercalate (detailParts scored rank) }

/-- One turn of the loop, on the total. -/
def addDecayed (rank : ℕ) (total raw : ℚ) : ℚ :=
  arithmetic.round (total + decayed arithmetic rank raw)

/-- The score of the open findings of an asset. -/
def computeExposureScore (thresholds : LevelThresholds) (findings : List BreachFinding)
    (now : Nat) : ExposureScore :=
  let scored := (findings.map (scoreFinding arithmetic now)).insertionSort
    fun first second => second.raw ≤ first.raw
  let total := foldRanked (addDecayed arithmetic) 0 0 (scored.map ScoredFinding.raw)
  let score := min maxScore (roundHalfEven total)
  { score
    level := levelFor thresholds score
    levelLabel := levelLabels (levelFor thresholds score)
    components := scored.zipIdx.filterMap fun entry => component? arithmetic entry.1 entry.2
    findingsCount := findings.length }

/-! ## The score without objects -/

/-- `SCORE_ROW_FIELDS`. -/
structure ScoreRow where
  severity : Severity
  breachDate : Option Date
  detectedAt : Nat
  isRevealable : Bool

/-- The row of a finding; the database computes `is_revealable`. -/
def annotateRevealable (finding : BreachFinding) : ScoreRow :=
  { severity := finding.severity
    breachDate := finding.breachDate
    detectedAt := finding.detectedAt
    isRevealable := if finding.hasSecret && !(finding.encrypted = "") then true else false }

def freshnessMultiplier (breachDate : Option Date) (detectedAt now : Nat) : ℚ :=
  let ageDays : Int :=
    match breachDate with
    | some reference => dayOrdinal (now / microsecondsPerSecond) - reference.ordinal
    | none => ((now : Int) - detectedAt) / microsecondsPerDay
  match freshnessTiers.find? fun tier => max 0 ageDays < tier.maxDays with
  | some tier => tier.multiplier
  | none => freshnessOldMultiplier

def rowRaw (now : Nat) (row : ScoreRow) : ℚ :=
  let raw := severityWeights row.severity * freshnessMultiplier row.breachDate row.detectedAt now
  if row.isRevealable then raw + revealableSecretBonus else raw

/-- The score of raw rows, on exact numbers. -/
def scoreFromRows (rows : List ScoreRow) (now : Nat) : Int :=
  let raws := descending (rows.map (rowRaw now))
  let total := (raws.zipIdx.map fun entry => entry.1 * additionalFindingDecay ^ entry.2).sum
  min maxScore (roundHalfEven total)

/-! ## The weight of a finding -/

section Weight

variable {arithmetic} {finding : BreachFinding} {now : Nat}

theorem Arithmetic.round_nonneg {x : ℚ} (nonneg : 0 ≤ x) : 0 ≤ arithmetic.round x := by
  rw [← arithmetic.round_zero]
  exact arithmetic.monotone nonneg

theorem severityWeights_nonneg (severity : Severity) : 0 ≤ severityWeights severity := by
  cases severity <;> norm_num [severityWeights]

/-- The multiplier of an age. -/
theorem freshness_multiplier : (freshness finding now).1 =
    if finding.ageDays now < 30 then 1
    else if finding.ageDays now < 90 then 85 / 100
    else if finding.ageDays now < 365 then 6 / 10
    else freshnessOldMultiplier := by
  rw [freshness]
  split_ifs with month quarter year
  · simp [freshnessTiers, month]
  · simp [freshnessTiers, month, quarter]
  · simp [freshnessTiers, month, quarter, year]
  · simp [freshnessTiers, month, quarter, year]

theorem multiplier_nonneg : 0 ≤ (freshness finding now).1 := by
  rw [freshness_multiplier]
  split_ifs <;> norm_num [freshnessOldMultiplier]

theorem raw_nonneg : 0 ≤ (scoreFinding arithmetic now finding).raw := by
  have weighed : 0 ≤ arithmetic.round
      (severityWeights finding.severity * arithmetic.round (freshness finding now).1) :=
    arithmetic.round_nonneg (mul_nonneg (severityWeights_nonneg _)
      (arithmetic.round_nonneg multiplier_nonneg))
  rw [scoreFinding]
  dsimp only
  split
  · refine arithmetic.round_nonneg (add_nonneg weighed ?_)
    norm_num [revealableSecretBonus]
  · exact weighed

/-- A finding grows older. -/
theorem ageDays_le (elapsed : Nat) : finding.ageDays now ≤ finding.ageDays (now + elapsed) := by
  rw [BreachFinding.ageDays, BreachFinding.ageDays]
  apply max_le_max (le_refl 0)
  cases finding.breachDate with
  | some reference =>
      have days : dayOrdinal (now / microsecondsPerSecond) ≤
          dayOrdinal ((now + elapsed) / microsecondsPerSecond) := by
        rw [dayOrdinal, dayOrdinal]
        exact Nat.add_le_add_left
          (Nat.div_le_div_right (Nat.div_le_div_right (Nat.le_add_right _ _))) _
      dsimp only
      omega
  | none =>
      have positive : (0 : Int) < microsecondsPerDay := by norm_num [microsecondsPerDay]
      apply Int.ediv_le_ediv positive
      omega

theorem multiplier_le (elapsed : Nat) :
    (freshness finding (now + elapsed)).1 ≤ (freshness finding now).1 := by
  have older : finding.ageDays now ≤ finding.ageDays (now + elapsed) := ageDays_le elapsed
  rw [freshness_multiplier, freshness_multiplier]
  split_ifs <;> first | omega | norm_num [freshnessOldMultiplier]

theorem raw_mono {other : BreachFinding} {later : Nat}
    (severity : other.severity = finding.severity)
    (multiplier : (freshness other later).1 ≤ (freshness finding now).1)
    (revealable : other.isRevealable = true → finding.isRevealable = true) :
    (scoreFinding arithmetic later other).raw ≤ (scoreFinding arithmetic now finding).raw := by
  have weighed : arithmetic.round
        (severityWeights other.severity * arithmetic.round (freshness other later).1) ≤
      arithmetic.round
        (severityWeights finding.severity * arithmetic.round (freshness finding now).1) := by
    apply arithmetic.monotone
    rw [severity]
    exact mul_le_mul_of_nonneg_left (arithmetic.monotone multiplier) (severityWeights_nonneg _)
  have rewarded (x : ℚ) (settled : arithmetic.round x = x) :
      x ≤ arithmetic.round (x + revealableSecretBonus) := by
    refine settled.symm.le.trans (arithmetic.monotone ?_)
    norm_num [revealableSecretBonus]
  rw [scoreFinding, scoreFinding]
  dsimp only
  cases bonus : other.isRevealable with
  | false =>
      rw [if_neg Bool.false_ne_true]
      split
      · exact weighed.trans (rewarded _ (arithmetic.round_round _))
      · exact weighed
  | true =>
      rw [if_pos rfl, if_pos (revealable bonus)]
      exact arithmetic.monotone (add_le_add_left weighed _)

end Weight

/-! ## The total -/

section Total

variable {arithmetic} {thresholds : LevelThresholds} {findings others : List BreachFinding}
  {now later : Nat}

/-- What the findings weigh before the decay. -/
def rawsOf (arithmetic : Arithmetic) (findings : List BreachFinding) (now : Nat) : List ℚ :=
  findings.map fun finding => (scoreFinding arithmetic now finding).raw

/-- The score depends on the weights only. -/
theorem score_eq : (computeExposureScore arithmetic thresholds findings now).score =
    min maxScore (roundHalfEven
      (foldRanked (addDecayed arithmetic) 0 0 (descending (rawsOf arithmetic findings now)))) := by
  have sorted : ((findings.map (scoreFinding arithmetic now)).insertionSort
      fun first second => second.raw ≤ first.raw).map ScoredFinding.raw =
        descending (rawsOf arithmetic findings now) := by
    rw [descending, rawsOf,
      List.map_insertionSort _ (fun first second => second ≤ first) _ _ fun _ _ _ _ => Iff.rfl,
      List.map_map]
    rfl
  rw [computeExposureScore]
  dsimp only
  rw [sorted]

theorem score_eq_of_perm (same : findings.Perm others) :
    (computeExposureScore arithmetic thresholds others now).score =
      (computeExposureScore arithmetic thresholds findings now).score := by
  have raws : (rawsOf arithmetic others now).Perm (rawsOf arithmetic findings now) :=
    same.symm.map _
  rw [score_eq, score_eq, descending_eq_of_perm raws]

theorem decayed_nonneg {rank : ℕ} {raw : ℚ} (nonneg : 0 ≤ raw) :
    0 ≤ decayed arithmetic rank raw :=
  arithmetic.round_nonneg (mul_nonneg nonneg (arithmetic.decay_nonneg rank))

/-- A turn of the loop raises the total. -/
theorem le_addDecayed {rank : ℕ} {total raw : ℚ} (settled : arithmetic.round total = total)
    (nonneg : 0 ≤ raw) : total ≤ addDecayed arithmetic rank total raw := by
  refine settled.symm.le.trans (arithmetic.monotone ?_)
  exact le_add_of_nonneg_right (decayed_nonneg nonneg)

theorem addDecayed_mono (rank : ℕ) {low high lower upper : ℚ} (totals : low ≤ high)
    (raws : lower ≤ upper) :
    addDecayed arithmetic rank low lower ≤ addDecayed arithmetic rank high upper := by
  refine arithmetic.monotone (add_le_add totals (arithmetic.monotone ?_))
  exact mul_le_mul_of_nonneg_right raws (arithmetic.decay_nonneg rank)

theorem nonneg_of_mem_rawsOf {raw : ℚ} (member : raw ∈ rawsOf arithmetic findings now) :
    0 ≤ raw := by
  obtain ⟨finding, _, rfl⟩ := List.mem_map.mp member
  exact raw_nonneg

/-- Findings that weigh less have the lower score. -/
theorem score_le_of_below
    (below : Below (rawsOf arithmetic others later) (rawsOf arithmetic findings now)) :
    (computeExposureScore arithmetic thresholds others later).score ≤
      (computeExposureScore arithmetic thresholds findings now).score := by
  rw [score_eq, score_eq]
  refine min_le_min (le_refl _) (roundHalfEven_mono ?_)
  refine foldRanked_le (motive := fun total => arithmetic.round total = total)
    (covered_descending below) addDecayed_mono (fun _ _ _ => arithmetic.round_round _) ?_
    arithmetic.round_zero (le_refl 0)
  intro rank total settled raw member
  exact le_addDecayed settled
    (nonneg_of_mem_rawsOf ((perm_descending _).mem_iff.mp member))

theorem score_nonneg : 0 ≤ (computeExposureScore arithmetic thresholds findings now).score := by
  rw [score_eq]
  refine le_min (by decide) ?_
  rw [← roundHalfEven_zero]
  refine roundHalfEven_mono (foldRanked_induction (motive := fun total => 0 ≤ total) (le_refl 0) ?_)
  intro rank total nonneg raw member
  refine arithmetic.round_nonneg (add_nonneg nonneg (decayed_nonneg ?_))
  exact nonneg_of_mem_rawsOf ((perm_descending _).mem_iff.mp member)

theorem score_le : (computeExposureScore arithmetic thresholds findings now).score ≤ maxScore := by
  rw [score_eq]
  exact min_le_left _ _

/-- A row weighs what its finding weighs. -/
theorem rowRaw_annotateRevealable (finding : BreachFinding) :
    rowRaw now (annotateRevealable finding) = (scoreFinding exactly now finding).raw := by
  have multiplier : freshnessMultiplier finding.breachDate finding.detectedAt now =
      (freshness finding now).1 := by
    unfold freshnessMultiplier freshness BreachFinding.ageDays
    cases finding.breachDate <;> dsimp only <;>
      generalize List.find? _ freshnessTiers = tier <;> cases tier <;> rfl
  have bonus : (annotateRevealable finding).isRevealable = finding.isRevealable := by
    rw [annotateRevealable, BreachFinding.isRevealable]
    cases finding.hasSecret <;> simp
  rw [rowRaw, scoreFinding, bonus]
  dsimp only [annotateRevealable]
  rw [multiplier]
  rfl

/-- On exact numbers, the loop adds up the weighted rows. -/
theorem scoreFromRows_eq :
    scoreFromRows (findings.map annotateRevealable) now =
      (computeExposureScore exactly thresholds findings now).score := by
  have raws : (findings.map annotateRevealable).map (rowRaw now) = rawsOf exactly findings now := by
    rw [List.map_map]
    exact List.map_congr_left fun finding _ => rowRaw_annotateRevealable finding
  have added := foldRanked_add (fun rank raw => raw * additionalFindingDecay ^ rank) 0 0
    (descending (rawsOf exactly findings now))
  rw [zero_add] at added
  rw [score_eq, scoreFromRows, raws, ← added]
  rfl

end Total

/-- The findings of an asset, and the time. -/
structure ExposedAsset where
  findings : List BreachFinding
  now : Nat

/-- The caller leaves the closed findings out. -/
def ExposedAsset.score (thresholds : LevelThresholds) (asset : ExposedAsset) : Int :=
  (computeExposureScore arithmetic thresholds
    (asset.findings.filter fun finding => finding.status = .open) asset.now).score

inductive ExposureEvent where
  /-- A user treats, or ignores, the finding at a position. -/
  | close (position : Nat) (ignored : Bool) (user : Option Nat)
  | elapse (microseconds : Nat)
  | purge (selected : BreachFinding → Bool)

def closingStatus (ignored : Bool) : FindingStatus :=
  if ignored then .ignored else .treated

def ExposedAsset.apply (asset : ExposedAsset) : ExposureEvent → ExposedAsset
  | .close position ignored user =>
      { asset with
        findings := asset.findings.modify position
          (BreachFinding.withStatus (closingStatus ignored) user asset.now) }
  | .elapse microseconds => { asset with now := asset.now + microseconds }
  | .purge selected =>
      { asset with
        findings := asset.findings.map fun finding =>
          if finding.hasSecret && selected finding then finding.purgeSecret asset.now
          else finding }

section Life

variable {arithmetic} {thresholds : LevelThresholds} {findings : List BreachFinding} {now : Nat}

theorem below_elapse (elapsed : Nat) :
    Below (rawsOf arithmetic findings (now + elapsed)) (rawsOf arithmetic findings now) :=
  below_map fun _ _ => raw_mono rfl (multiplier_le elapsed) id

theorem below_sublist {others : List BreachFinding} (sublist : others.Sublist findings) :
    Below (rawsOf arithmetic others now) (rawsOf arithmetic findings now) :=
  below_of_sublist (sublist.map _)

theorem raw_purgeSecret (finding : BreachFinding) (purgedAt : Nat) :
    (scoreFinding arithmetic now (finding.purgeSecret purgedAt)).raw ≤
      (scoreFinding arithmetic now finding).raw := by
  refine raw_mono rfl ?_ ?_
  · exact le_refl (freshness finding now).1
  · intro revealable
    cases revealable

theorem below_purge (selected : BreachFinding → Bool) (purgedAt : Nat) :
    Below
      (rawsOf arithmetic (findings.map fun finding =>
        if finding.hasSecret && selected finding then finding.purgeSecret purgedAt
        else finding) now)
      (rawsOf arithmetic findings now) := by
  rw [rawsOf, List.map_map]
  apply below_map
  intro finding _
  dsimp only [Function.comp_apply]
  split
  · exact raw_purgeSecret finding purgedAt
  · exact le_refl _

/-- Closing the finding at a position leaves some of the open findings. -/
theorem filter_open_close (status : FindingStatus) (closed : status ≠ .open) (user : Option Nat)
    (position : Nat) :
    ((findings.modify position (BreachFinding.withStatus status user now)).filter
      fun finding => finding.status = .open).Sublist
        (findings.filter fun finding => finding.status = .open) := by
  induction findings generalizing position with
  | nil => simp
  | cons finding findings ih =>
      cases position with
      | zero =>
          have gone : (finding.withStatus status user now).status ≠ .open := closed
          rw [List.modify_zero_cons, List.filter_cons_of_neg (by simpa using gone)]
          exact List.Sublist.filter _ (List.sublist_cons_self finding findings)
      | succ position =>
          rw [List.modify_succ_cons, List.filter_cons, List.filter_cons]
          split
          · exact (ih position).cons_cons finding
          · exact ih position

/-- The purge looks at the secrets, not at the status. -/
theorem filter_open_purge (selected : BreachFinding → Bool) (purgedAt : Nat) :
    (findings.map fun finding =>
        if finding.hasSecret && selected finding then finding.purgeSecret purgedAt
        else finding).filter (fun finding => finding.status = .open) =
      (findings.filter fun finding => finding.status = .open).map fun finding =>
        if finding.hasSecret && selected finding then finding.purgeSecret purgedAt
        else finding := by
  rw [List.filter_map]
  congr 1
  apply List.filter_congr
  intro finding _
  dsimp only [Function.comp_apply]
  split <;> rfl

/-- An event never raises the score. -/
theorem score_apply (asset : ExposedAsset) (event : ExposureEvent) :
    (asset.apply event).score arithmetic thresholds ≤ asset.score arithmetic thresholds := by
  cases event with
  | close position ignored user =>
      refine score_le_of_below (below_sublist (filter_open_close _ ?_ user position))
      cases ignored <;> decide
  | elapse microseconds => exact score_le_of_below (below_elapse microseconds)
  | purge selected =>
      apply score_le_of_below
      dsimp only [ExposedAsset.apply]
      rw [filter_open_purge]
      exact below_purge selected asset.now

end Life

/-- Whatever the rounding of the platform, the score never rises when a finding
leaves the list, when time passes and when secrets are purged, and over any run
of these events. -/
theorem exposureScore_neverRises (arithmetic : Arithmetic) (thresholds : LevelThresholds) :
    (∀ (findings : List BreachFinding) (now position : Nat),
        (computeExposureScore arithmetic thresholds (findings.eraseIdx position) now).score ≤
          (computeExposureScore arithmetic thresholds findings now).score) ∧
      (∀ (findings : List BreachFinding) (now elapsed : Nat),
        (computeExposureScore arithmetic thresholds findings (now + elapsed)).score ≤
          (computeExposureScore arithmetic thresholds findings now).score) ∧
      (∀ (findings : List BreachFinding) (now purgedAt : Nat) (selected : BreachFinding → Bool),
        (computeExposureScore arithmetic thresholds (findings.map fun finding =>
          if finding.hasSecret && selected finding then finding.purgeSecret purgedAt
          else finding) now).score ≤
            (computeExposureScore arithmetic thresholds findings now).score) ∧
      ∀ (asset : ExposedAsset) (events : List ExposureEvent),
        Run.Always ExposedAsset.apply
          (fun later => later.score arithmetic thresholds ≤ asset.score arithmetic thresholds)
          asset events := by
  refine ⟨?_, ?_, ?_, ?_⟩
  · intro findings now position
    exact score_le_of_below (below_sublist (List.eraseIdx_sublist findings position))
  · intro findings now elapsed
    exact score_le_of_below (below_elapse elapsed)
  · intro findings now purgedAt selected
    exact score_le_of_below (below_purge selected purgedAt)
  · intro asset events
    apply Run.always_of_step
    · intro later event lower
      exact (score_apply later event).trans lower
    · exact le_refl _

end RssiService.ThreatIntelligence
