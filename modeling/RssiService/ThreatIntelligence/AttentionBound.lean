import RssiService.ThreatIntelligence.ExposureScore

/-!
# Many small findings against a grave one

The decay bounds what findings of attention can add up to, whatever their
number: less than one fresh critical finding whose secret can be revealed.  On
floats each sum is rounded; the far ranks, which are many, add too little for
their rounding to count.
-/

namespace RssiService.ThreatIntelligence

open Foundation Foundation.RankedSum Python

/-! ## Rounding to the nearest -/

/-- What binary64 guarantees: results are rounded to the nearest number, those
of few digits are numbers, and a power is off by one unit in the last place. -/
structure Arithmetic.Nearest (arithmetic : Arithmetic) : Prop where
  nearest : ∀ x number, arithmetic.round number = number →
    |arithmetic.round x - x| ≤ |number - x|
  short : ∀ digits : ℕ, digits ≤ 2 ^ 26 → arithmetic.round (digits / 2 ^ 20) = digits / 2 ^ 20
  decay_zero : arithmetic.decay 0 = 1
  decay_le : ∀ rank ≤ 1000, arithmetic.decay rank ≤ additionalFindingDecay ^ rank * (1 + 1 / 2 ^ 20)
  decay_le_double : ∀ rank, arithmetic.decay rank ≤ 2 * additionalFindingDecay ^ rank

theorem exactly_nearest : exactly.Nearest where
  nearest x number _ := by simp [exactly]
  short _ _ := rfl
  decay_zero := pow_zero _
  decay_le rank _ := by
    have power : (0 : ℚ) ≤ additionalFindingDecay ^ rank := exactly.decay_nonneg rank
    dsimp only [exactly]
    linarith
  decay_le_double rank := by
    have power : (0 : ℚ) ≤ additionalFindingDecay ^ rank := exactly.decay_nonneg rank
    dsimp only [exactly]
    linarith

section Bound

variable {arithmetic : Arithmetic}

/-- The whole numbers of a score are kept. -/
theorem Arithmetic.Nearest.round_whole (floats : arithmetic.Nearest) (points : ℕ)
    (bound : points ≤ 64) : arithmetic.round points = points := by
  have kept := floats.short (points * 2 ^ 20) (by omega)
  have same : ((points * 2 ^ 20 : ℕ) : ℚ) / 2 ^ 20 = points := by
    rw [Nat.cast_mul, Nat.cast_pow, Nat.cast_ofNat]
    exact mul_div_cancel_right₀ _ (by norm_num)
  rwa [same] at kept

/-- A score is rounded by less than a millionth. -/
theorem Arithmetic.Nearest.round_le (floats : arithmetic.Nearest) {x : ℚ} (nonneg : 0 ≤ x)
    (bound : x ≤ 64) : arithmetic.round x ≤ x + 1 / 2 ^ 20 := by
  -- the number of twenty binary digits just below
  have below : (⌊x * 2 ^ 20⌋₊ : ℚ) ≤ x * 2 ^ 20 := Nat.floor_le (by positivity)
  have above : x * 2 ^ 20 < ⌊x * 2 ^ 20⌋₊ + 1 := Nat.lt_floor_add_one _
  have few : ⌊x * 2 ^ 20⌋₊ ≤ 2 ^ 26 := by
    apply Nat.floor_le_of_le
    push_cast
    linarith
  have distance := floats.nearest x _ (floats.short _ few)
  have close : |(⌊x * 2 ^ 20⌋₊ : ℚ) / 2 ^ 20 - x| ≤ 1 / 2 ^ 20 := by
    rw [abs_le]
    constructor
    · rw [← sub_nonneg]
      have : (0 : ℚ) ≤ (⌊x * 2 ^ 20⌋₊ + 1 - x * 2 ^ 20) / 2 ^ 20 := by
        apply div_nonneg <;> linarith
      linarith
    · have : (0 : ℚ) ≤ (x * 2 ^ 20 - ⌊x * 2 ^ 20⌋₊) / 2 ^ 20 := by
        apply div_nonneg <;> linarith
      linarith
  linarith [le_abs_self (arithmetic.round x - x)]

/-- What is added to a number is at most doubled by the rounding. -/
theorem Arithmetic.Nearest.round_add_le (floats : arithmetic.Nearest) {number added : ℚ}
    (settled : arithmetic.round number = number) (nonneg : 0 ≤ added) :
    arithmetic.round (number + added) ≤ number + 2 * added := by
  have distance := floats.nearest (number + added) number settled
  have size : |number - (number + added)| = added := by
    rw [sub_add_cancel_left, abs_neg, abs_of_nonneg nonneg]
  linarith [le_abs_self (arithmetic.round (number + added) - (number + added))]

/-- A finding of attention weighs eight points, and ten for its secret. -/
theorem attention_raw_le (floats : arithmetic.Nearest) {finding : BreachFinding} (now : Nat)
    (attention : finding.severity = .attention) :
    (scoreFinding arithmetic now finding).raw ≤ 18 := by
  have one : arithmetic.round 1 = 1 := by
    simpa using floats.round_whole 1 (by norm_num)
  have eight : arithmetic.round 8 = 8 := by
    simpa using floats.round_whole 8 (by norm_num)
  have eighteen : arithmetic.round 18 = 18 := by
    simpa using floats.round_whole 18 (by norm_num)
  have multiplier : arithmetic.round (freshness finding now).1 ≤ 1 := by
    rw [← one]
    apply arithmetic.monotone
    rw [freshness_multiplier]
    split_ifs <;> norm_num [freshnessOldMultiplier]
  have weighed : arithmetic.round
      (severityWeights finding.severity * arithmetic.round (freshness finding now).1) ≤ 8 := by
    rw [← eight]
    apply arithmetic.monotone
    rw [attention, severityWeights]
    linarith
  rw [scoreFinding]
  dsimp only
  split
  · rw [← eighteen]
    apply arithmetic.monotone
    rw [revealableSecretBonus]
    linarith
  · linarith

/-- A fresh critical finding with a revealable secret weighs fifty points. -/
theorem critical_raw (floats : arithmetic.Nearest) {finding : BreachFinding} {now : Nat}
    (critical : finding.severity = .critical) (fresh : finding.ageDays now < 30)
    (revealable : finding.isRevealable = true) :
    (scoreFinding arithmetic now finding).raw = 50 := by
  have one : arithmetic.round 1 = 1 := by
    simpa using floats.round_whole 1 (by norm_num)
  have forty : arithmetic.round 40 = 40 := by
    simpa using floats.round_whole 40 (by norm_num)
  have fifty : arithmetic.round 50 = 50 := by
    simpa using floats.round_whole 50 (by norm_num)
  have multiplier : (freshness finding now).1 = 1 := by
    rw [freshness_multiplier, if_pos fresh]
  have sum : (40 : ℚ) + 10 = 50 := by norm_num
  rw [scoreFinding]
  dsimp only
  rw [multiplier, critical, revealable, if_pos rfl, one, severityWeights, mul_one, forty,
    revealableSecretBonus, sum, fifty]

/-! ## The budget of the ranks -/

/-- What the findings of attention can still add from a rank on. -/
def attentionBudget (rank : ℕ) : ℚ :=
  if rank < 12 then 46 * additionalFindingDecay ^ rank + 1 else 360 * additionalFindingDecay ^ rank

theorem attentionBudget_nonneg (rank : ℕ) : 0 ≤ attentionBudget rank := by
  have power : (0 : ℚ) ≤ additionalFindingDecay ^ rank := exactly.decay_nonneg rank
  rw [attentionBudget]
  split <;> linarith

/-- A near rank is rounded by less than what the budget leaves. -/
theorem addDecayed_le_near (floats : arithmetic.Nearest) {rank : ℕ} {total raw : ℚ}
    (near : rank < 12) (nonneg : 0 ≤ total)
    (bound : total + 18 * additionalFindingDecay ^ rank ≤ 46) (positive : 0 ≤ raw)
    (light : raw ≤ 18) :
    addDecayed arithmetic rank total raw ≤
      total + 18 * additionalFindingDecay ^ rank + 1 / 2 ^ 10 := by
  have power : (0 : ℚ) ≤ additionalFindingDecay ^ rank := exactly.decay_nonneg rank
  have least : additionalFindingDecay ^ rank ≤ 1 :=
    pow_le_one₀ (by norm_num [additionalFindingDecay]) (by norm_num [additionalFindingDecay])
  have product : raw * arithmetic.decay rank ≤ 18 * additionalFindingDecay ^ rank + 18 / 2 ^ 20 :=
    calc
      raw * arithmetic.decay rank ≤ 18 * arithmetic.decay rank :=
        mul_le_mul_of_nonneg_right light (arithmetic.decay_nonneg rank)
      _ ≤ 18 * additionalFindingDecay ^ rank + 18 / 2 ^ 20 := by
        have decay := floats.decay_le rank (by omega)
        linarith
  have weighed : 0 ≤ raw * arithmetic.decay rank :=
    mul_nonneg positive (arithmetic.decay_nonneg rank)
  have counted : decayed arithmetic rank raw ≤ raw * arithmetic.decay rank + 1 / 2 ^ 20 :=
    floats.round_le weighed (by linarith)
  have added : addDecayed arithmetic rank total raw ≤
      total + decayed arithmetic rank raw + 1 / 2 ^ 20 :=
    floats.round_le (add_nonneg nonneg (decayed_nonneg positive)) (by linarith)
  linarith

/-- At a far rank the roundings may double what is added, twice. -/
theorem addDecayed_le_far (floats : arithmetic.Nearest) (rank : ℕ) {total raw : ℚ}
    (settled : arithmetic.round total = total) (positive : 0 ≤ raw) (light : raw ≤ 18) :
    addDecayed arithmetic rank total raw ≤ total + 144 * additionalFindingDecay ^ rank := by
  have weighed : 0 ≤ raw * arithmetic.decay rank :=
    mul_nonneg positive (arithmetic.decay_nonneg rank)
  have product : raw * arithmetic.decay rank ≤ 36 * additionalFindingDecay ^ rank :=
    calc
      raw * arithmetic.decay rank ≤ 18 * arithmetic.decay rank :=
        mul_le_mul_of_nonneg_right light (arithmetic.decay_nonneg rank)
      _ ≤ 36 * additionalFindingDecay ^ rank := by
        have decay := floats.decay_le_double rank
        linarith
  have counted : decayed arithmetic rank raw ≤ 2 * (raw * arithmetic.decay rank) := by
    simpa [decayed] using floats.round_add_le arithmetic.round_zero weighed
  have added : addDecayed arithmetic rank total raw ≤ total + 2 * decayed arithmetic rank raw :=
    floats.round_add_le settled (decayed_nonneg positive)
  linarith

/-- The total and the budget of the ranks to come. -/
structure WithinBudget (arithmetic : Arithmetic) (rank : ℕ) (total : ℚ) : Prop where
  settled : arithmetic.round total = total
  nonneg : 0 ≤ total
  budget : total + attentionBudget rank ≤ 47

/-- A finding of attention spends no more than what its rank is allowed. -/
theorem WithinBudget.step (floats : arithmetic.Nearest) {rank : ℕ} {total raw : ℚ}
    (within : WithinBudget arithmetic rank total) (positive : 0 ≤ raw) (light : raw ≤ 18) :
    WithinBudget arithmetic (rank + 1) (addDecayed arithmetic rank total raw) where
  settled := arithmetic.round_round _
  nonneg := within.nonneg.trans (le_addDecayed within.settled positive)
  budget := by
    have power : (0 : ℚ) ≤ additionalFindingDecay ^ rank := exactly.decay_nonneg rank
    have next : additionalFindingDecay ^ (rank + 1) = 6 / 10 * additionalFindingDecay ^ rank := by
      rw [pow_succ, additionalFindingDecay, mul_comm]
    have budget := within.budget
    rw [attentionBudget] at budget ⊢
    rcases Nat.lt_trichotomy rank 11 with early | rfl | late
    · -- the power is still large before what the roundings add
      have large : (additionalFindingDecay : ℚ) ^ 10 ≤ additionalFindingDecay ^ rank :=
        pow_le_pow_of_le_one (by norm_num [additionalFindingDecay])
          (by norm_num [additionalFindingDecay]) (by omega)
      have value : (3 : ℚ) / 1000 ≤ additionalFindingDecay ^ 10 := by
        norm_num [additionalFindingDecay]
      rw [if_pos (by omega)] at budget ⊢
      have added := addDecayed_le_near floats (by omega : rank < 12) within.nonneg (by linarith)
        positive light
      rw [next]
      linarith
    · rw [if_pos (by omega)] at budget
      rw [if_neg (by omega)]
      have added := addDecayed_le_near floats (by omega : 11 < 12) within.nonneg (by linarith)
        positive light
      norm_num [additionalFindingDecay] at budget added ⊢
      linarith
    · rw [if_neg (by omega)] at budget ⊢
      have added := addDecayed_le_far floats rank within.settled positive light
      rw [next]
      linarith

/-- The total of findings of attention, whatever their number. -/
theorem attention_total_le (floats : arithmetic.Nearest) {raws : List ℚ}
    (positive : ∀ raw ∈ raws, 0 ≤ raw) (light : ∀ raw ∈ raws, raw ≤ 18) :
    foldRanked (addDecayed arithmetic) 0 0 raws ≤ 47 := by
  have start : WithinBudget arithmetic 0 0 :=
    ⟨arithmetic.round_zero, le_refl 0, by norm_num [attentionBudget]⟩
  have spent : WithinBudget arithmetic (0 + raws.length)
      (foldRanked (addDecayed arithmetic) 0 0 raws) := by
    apply foldRanked_induction_rank start
    intro rank total within raw member
    exact within.step floats (positive raw member) (light raw member)
  linarith [spent.budget, attentionBudget_nonneg (0 + raws.length)]

/-! ## The scores -/

variable {thresholds : LevelThresholds} {findings : List BreachFinding} {now : Nat}

theorem attention_score_le (floats : arithmetic.Nearest)
    (attention : ∀ finding ∈ findings, finding.severity = .attention) :
    (computeExposureScore arithmetic thresholds findings now).score ≤ 47 := by
  have member (raw : ℚ) (kept : raw ∈ descending (rawsOf arithmetic findings now)) :
      raw ∈ rawsOf arithmetic findings now := (perm_descending _).mem_iff.mp kept
  have total : foldRanked (addDecayed arithmetic) 0 0
      (descending (rawsOf arithmetic findings now)) ≤ 47 := by
    apply attention_total_le floats
    · intro raw kept
      exact nonneg_of_mem_rawsOf (member raw kept)
    · intro raw kept
      obtain ⟨finding, listed, rfl⟩ := List.mem_map.mp (member raw kept)
      exact attention_raw_le floats now (attention finding listed)
  have rounded : roundHalfEven 47 = 47 := by norm_num [roundHalfEven]
  rw [score_eq]
  calc
    min maxScore (roundHalfEven _) ≤ roundHalfEven _ := min_le_right _ _
    _ ≤ roundHalfEven 47 := roundHalfEven_mono total
    _ = 47 := rounded

theorem critical_score (floats : arithmetic.Nearest) {finding : BreachFinding}
    (critical : finding.severity = .critical) (fresh : finding.ageDays now < 30)
    (revealable : finding.isRevealable = true) :
    (computeExposureScore arithmetic thresholds [finding] now).score = 50 := by
  have fifty : arithmetic.round 50 = 50 := by
    simpa using floats.round_whole 50 (by norm_num)
  have total : foldRanked (addDecayed arithmetic) 0 0
      (descending (rawsOf arithmetic [finding] now)) = 50 := by
    rw [rawsOf, List.map_singleton, critical_raw floats critical fresh revealable]
    change arithmetic.round (0 + arithmetic.round (50 * arithmetic.decay 0)) = 50
    rw [floats.decay_zero, mul_one, fifty, zero_add, fifty]
  have rounded : roundHalfEven 50 = 50 := by norm_num [roundHalfEven]
  rw [score_eq, total, rounded]
  rfl

end Bound

/-- However many findings of attention an asset has, however fresh and whether
or not their secrets can be revealed, it scores less than one fresh critical
finding with a revealable secret. -/
theorem attention_scores_below_critical (arithmetic : Arithmetic) (floats : arithmetic.Nearest)
    (thresholds : LevelThresholds) (findings : List BreachFinding) (now : Nat)
    (attention : ∀ finding ∈ findings, finding.severity = .attention)
    (finding : BreachFinding) (instant : Nat) (critical : finding.severity = .critical)
    (fresh : finding.ageDays instant < 30) (revealable : finding.isRevealable = true) :
    (computeExposureScore arithmetic thresholds findings now).score <
      (computeExposureScore arithmetic thresholds [finding] instant).score := by
  rw [critical_score floats critical fresh revealable]
  exact (attention_score_le floats attention).trans_lt (by norm_num)

/-- An account that leaked with its password. -/
def leakedPassword (severity : Severity) (key : Nat) : BreachFinding :=
  { leakedAccount key with severity, hasSecret := true, secretEncrypted := some "token" }

theorem leakedPasswords_score_below :
    (computeExposureScore exactly { watch := 20, concerning := 50, critical := 75 }
        ((List.range 40).map (leakedPassword .attention)) 10).score <
      (computeExposureScore exactly { watch := 20, concerning := 50, critical := 75 }
        [leakedPassword .critical 0] 10).score := by
  apply attention_scores_below_critical exactly exactly_nearest
  · intro finding listed
    obtain ⟨key, _, rfl⟩ := List.mem_map.mp listed
    rfl
  · rfl
  · decide +kernel
  · rfl

end RssiService.ThreatIntelligence
