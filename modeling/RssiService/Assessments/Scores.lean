import RssiService.Assessments.ScoreBounds

/-!
# The scores of an assessment

An assessment has a score as a whole and one for each of its domains, from its answers or
from answers that are supposed.
-/

namespace RssiService.Assessments

open Foundation Python

structure DomainScore (Score : Type) where
  domainCode : String
  domainName : String
  score : Option Score

structure Scores (Score : Type) where
  globalScore : Option Score
  byDomain : List (DomainScore Score)

/-- The scores over the scope of an assessment, when the score of measures is known. -/
def Database.scoresOf {Score : Type} (db : Database) (assessment : Assessment)
    (score : List Measure → Option Score) : Scores Score :=
  let measures := db.assessmentMeasures assessment
  { globalScore := score measures
    byDomain := (db.byDomain assessment.referential measures).map fun (domain, measures) =>
      ⟨domain.code, domain.name, score measures⟩ }

def computeScores (db : Database) (assessment : Assessment) (values : Nat → Option Value) :
    Scores Float :=
  db.scoresOf assessment (scoreFromValues values)

/-- `compute_scores` on exact numbers, before it rounds. -/
def exactScores (db : Database) (assessment : Assessment) (values : Nat → Option Value) :
    Scores Exact :=
  db.scoresOf assessment (exactScore values)

/-- Both have the same domains, and their scores are related one by one. -/
def Scores.Both {Score : Type} (related : Option Score → Option Score → Prop)
    (first second : Scores Score) : Prop :=
  related first.globalScore second.globalScore ∧
    List.Forall₂ (fun line line' => line.domainCode = line'.domainCode ∧
      related line.score line'.score) first.byDomain second.byDomain

theorem mem_byDomain {db : Database} {referential : Nat} {measures : List Measure}
    {pair : Domain × List Measure} (listed : pair ∈ db.byDomain referential measures) :
    ∀ measure ∈ pair.2, measure ∈ measures := by
  obtain ⟨domain, _, rfl⟩ := List.mem_map.mp (List.mem_filter.mp listed).1
  exact fun measure inside => (List.mem_filter.mp inside).1

/-- What relates the scores of measures of the scope relates all the scores. -/
theorem both_scoresOf {Score : Type} {related : Option Score → Option Score → Prop}
    {db : Database} {assessment : Assessment} {score score' : List Measure → Option Score}
    (each : ∀ measures, (∀ measure ∈ measures, measure ∈ db.assessmentMeasures assessment) →
      related (score measures) (score' measures)) :
    Scores.Both related (db.scoresOf assessment score) (db.scoresOf assessment score') := by
  refine ⟨each _ fun _ inside => inside, ?_⟩
  rw [Database.scoresOf, Database.scoresOf]
  refine List.forall₂_map_left_iff.mpr (List.forall₂_map_right_iff.mpr ?_)
  exact List.forall₂_same.mpr fun pair listed => ⟨rfl, each _ (mem_byDomain listed)⟩

/-! ## Better answers -/

/-- The second score is there where the first one is, and it is no lower. -/
def Improves (first second : Option Exact) : Prop :=
  (first = none ↔ second = none) ∧ NoGreater first second

/-- The second score is a hundred, or both are absent. -/
def Completes (first second : Option Exact) : Prop :=
  second = some (.finite 100) ∨ first = none ∧ second = none

section Positive

variable {values values' : Nat → Option Value} {measures : List Measure}
  (positive : ∀ measure ∈ measures, measure.exactWeight.IsPositive)

include positive

theorem exactWeight_eq : ∀ measure ∈ measures,
    measure.exactWeight = .finite measure.exactWeight.value := by
  intro measure inside
  obtain ⟨weight, exact, _⟩ := positive measure inside
  rw [exact, Exact.value]

theorem one_mul_weight_pos : ∀ measure ∈ measures, 0 < 1 * measure.exactWeight.value := by
  intro measure inside
  obtain ⟨weight, exact, above⟩ := positive measure inside
  rwa [exact, Exact.value, one_mul]

/-- Credits that rise make a score that rises. -/
theorem improves_of_credits
    (raises : ∀ measure ∈ measures,
      Option.Rel (· ≤ ·) (creditOf values measure) (creditOf values' measure)) :
    Improves (exactScore values measures) (exactScore values' measures) := by
  let weight := fun measure : Measure => measure.exactWeight.value
  have finite : ∀ measure ∈ measures, measure.exactWeight = .finite (weight measure) :=
    exactWeight_eq positive
  have above : ∀ measure ∈ measures, 0 < 1 * weight measure := one_mul_weight_pos positive
  have gains : (measures.map (gain values weight)).sum ≤
      (measures.map (gain values' weight)).sum := by
    have raised := sum_gain_le_of_credits above raises
    rwa [one_mul, one_mul] at raised
  have low : 0 ≤ 1 * (measures.map (gain values weight)).sum := sum_gain_nonneg above
  have high : 1 * (measures.map (gain values weight)).sum ≤
      1 * (measures.map (counted values weight)).sum := sum_gain_le_counted above
  rw [exactScore_of_finite finite, exactScore_of_finite finite, map_counted_of_credits raises]
  by_cases none : (measures.map (counted values weight)).sum = 0
  · rw [if_pos none, if_pos none]
    exact ⟨Iff.rfl, by rintro value ⟨⟩⟩
  · rw [if_neg none, if_neg none]
    refine ⟨by simp, fun value first => ⟨_, rfl, ?_⟩⟩
    rw [← Exact.finite.inj (Option.some.inj first)]
    refine div_le_div_of_nonneg_right (mul_le_mul_of_nonneg_left gains (by norm_num)) ?_
    linarith

/-- Where each answer that counts has the whole credit, the score is a hundred. -/
theorem exactScore_of_whole
    (whole : ∀ measure ∈ measures, ∀ credit, creditOf values measure = some credit → credit = 1) :
    exactScore values measures = none ∨ exactScore values measures = some (.finite 100) := by
  have same : measures.map (gain values fun measure => measure.exactWeight.value) =
      measures.map (counted values fun measure => measure.exactWeight.value) := by
    refine List.map_congr_left fun measure inside => ?_
    rw [gain, counted]
    cases given : creditOf values measure with
    | none => rfl
    | some credit =>
        rw [whole measure inside credit given]
        exact one_mul _
  rw [exactScore_of_finite (exactWeight_eq positive), same]
  split
  · exact .inl rfl
  · rename_i some_weight
    exact .inr (by rw [mul_div_assoc, div_self some_weight, mul_one])

end Positive

end RssiService.Assessments
