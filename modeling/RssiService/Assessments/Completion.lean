import RssiService.Foundation.Counting
import RssiService.Assessments.Diagnostics

/-!
# Completion against the scope

Answers outlive the measures they answer: a composition may be replaced while
the assessment is in progress.  The completion compares the number of answers
with the number of measures.
-/

namespace RssiService.Assessments

open Foundation Python

/-! ## The claim and its condition -/

/-- Completion succeeds exactly where every measure of the scope has an answer, and
no progress is above its total. -/
structure CompletionExact (db : Database) (now : Nat) (assessment : Assessment) : Prop where
  succeeds_iff : (completeAssessment db now assessment).isOk = true ↔
    ∀ measure ∈ db.assessmentMeasures assessment, db.isAnswered assessment measure = true
  progress : (getProgress db assessment).answered ≤ (getProgress db assessment).total
  progressByDomain : ∀ domain ∈ (getProgress db assessment).byDomain,
    domain.answered ≤ domain.total

/-- The measures of the scope without answer. -/
def Database.unanswered (db : Database) (assessment : Assessment) : List Measure :=
  (db.assessmentMeasures assessment).filter fun row => !db.isAnswered assessment row

/-- The answers to measures that are not in the scope. -/
def Database.strays (db : Database) (assessment : Assessment) : List Answer :=
  (db.listAnswers assessment).filter fun row =>
    row.measure ∉ (db.assessmentMeasures assessment).map Measure.id

/-- In progress, the answers out of the scope are fewer than the measures without
answer, when there is one.  A completed assessment is refused. -/
def Counted (db : Database) (assessment : Assessment) : Prop :=
  match assessment.status with
  | .inProgress =>
      db.unanswered assessment = [] ∨
        (db.strays assessment).length < (db.unanswered assessment).length
  | .completed => db.unanswered assessment ≠ []

/-! ## Counting -/

section Counting

variable {db : Database} {assessment : Assessment}

theorem nodup_scope : ((db.assessmentMeasures assessment).map Measure.id).Nodup := by
  refine (nodup_assessmentMeasures db assessment).map_on ?_
  intro first inFirst second inSecond same
  exact Table.ident_injective (mem_assessmentMeasures.mp inFirst).1
    (mem_assessmentMeasures.mp inSecond).1 same

theorem nodup_answered : ((db.listAnswers assessment).map Answer.measure).Nodup := by
  refine List.pairwise_map.mpr ?_
  refine (db.answeredOnce.filter _).imp_of_mem fun {first second} inFirst inSecond apart same => ?_
  obtain ⟨_, mine⟩ := List.mem_filter.mp inFirst
  obtain ⟨_, yours⟩ := List.mem_filter.mp inSecond
  simp only [Bool.and_eq_true, decide_eq_true_eq] at mine yours
  exact apart (Prod.ext (mine.2.trans yours.2.symm) same)

theorem isAnswered_iff {measure : Measure} : db.isAnswered assessment measure = true ↔
    measure.id ∈ (db.listAnswers assessment).map Answer.measure := by
  rw [Database.isAnswered, List.any_eq_true, List.mem_map]
  simp only [decide_eq_true_eq]

theorem unanswered_eq_nil_iff : db.unanswered assessment = [] ↔
    ∀ measure ∈ db.assessmentMeasures assessment, db.isAnswered assessment measure = true := by
  rw [Database.unanswered, List.filter_eq_nil_iff]
  simp

/-- The answers and the measures without answer, against the measures and the
answers out of the scope. -/
theorem length_listAnswers_add_unanswered (db : Database) (assessment : Assessment) :
    (db.listAnswers assessment).length + (db.unanswered assessment).length =
      (db.assessmentMeasures assessment).length + (db.strays assessment).length := by
  have unanswered : (db.unanswered assessment).length =
      ((db.assessmentMeasures assessment).map Measure.id).countP fun key =>
        key ∉ (db.listAnswers assessment).map Answer.measure := by
    rw [Database.unanswered, ← List.countP_eq_length_filter, List.countP_map]
    refine List.countP_congr fun row _ => ?_
    rw [Bool.not_eq_true', ← Bool.not_eq_true, isAnswered_iff]
    exact decide_eq_true_iff.symm
  have strays : (db.strays assessment).length =
      ((db.listAnswers assessment).map Answer.measure).countP fun key =>
        key ∉ (db.assessmentMeasures assessment).map Measure.id := by
    rw [Database.strays, ← List.countP_eq_length_filter, List.countP_map]
    rfl
  have counted := length_add_countP_notMem
    (nodup_answered : ((db.listAnswers assessment).map Answer.measure).Nodup)
    (nodup_scope : ((db.assessmentMeasures assessment).map Measure.id).Nodup)
  rw [List.length_map, List.length_map] at counted
  rw [unanswered, strays]
  exact counted

theorem isOk_completeAssessment_iff {now : Nat} :
    (completeAssessment db now assessment).isOk = true ↔ assessment.status = .inProgress ∧
      (db.unanswered assessment).length ≤ (db.strays assessment).length := by
  have counted := length_listAnswers_add_unanswered db assessment
  rw [completeAssessment]
  cases assessment.status with
  | completed => exact iff_of_false (by rintro ⟨⟩) (by rintro ⟨⟨⟩, _⟩)
  | inProgress =>
      rw [if_neg (by rintro ⟨⟩), and_iff_right rfl]
      dsimp only
      split
      · rename_i fewer
        exact iff_of_false (by rintro ⟨⟩) (by omega)
      · rename_i enough
        exact iff_of_true rfl (by omega)

end Counting

theorem progress_le (db : Database) (assessment : Assessment) :
    (getProgress db assessment).answered ≤ (getProgress db assessment).total :=
  List.countP_le_length

theorem progressByDomain_le (db : Database) (assessment : Assessment) :
    ∀ domain ∈ (getProgress db assessment).byDomain, domain.answered ≤ domain.total := by
  intro domain reported
  obtain ⟨pair, _, rfl⟩ := List.mem_map.mp reported
  exact List.countP_le_length

/-- Completion agrees with the scope exactly where the answers out of the scope do
not make up for measures without answer. -/
theorem completion_exact_iff (db : Database) (now : Nat) (assessment : Assessment) :
    CompletionExact db now assessment ↔ Counted db assessment := by
  have bounded := progress_le db assessment
  have boundedByDomain := progressByDomain_le db assessment
  have exactly : CompletionExact db now assessment ↔
      ((completeAssessment db now assessment).isOk = true ↔ db.unanswered assessment = []) := by
    rw [unanswered_eq_nil_iff]
    exact ⟨CompletionExact.succeeds_iff, fun succeeds => ⟨succeeds, bounded, boundedByDomain⟩⟩
  rw [exactly, isOk_completeAssessment_iff, Counted]
  cases assessment.status with
  | completed => simp
  | inProgress =>
      by_cases all : db.unanswered assessment = []
      · simp [all]
      · rw [and_iff_right rfl, iff_false_right all, Nat.not_le]
        exact (or_iff_right all).symm

/-! An answered measure is replaced by another one in the composition. -/

section Recomposed

/-- The only measure asked was answered before the composition was replaced. -/
def recomposed : Database := composedOf (answered startedOnFirst firstAssessment .yes) "2"

theorem recomposed_completes_unanswered :
    firstAssessment ∈ recomposed.assessments ∧
      ¬ CompletionExact recomposed 0 firstAssessment := by
  refine ⟨by decide +kernel, fun complete => ?_⟩
  have succeeds : (completeAssessment recomposed 0 firstAssessment).isOk = true := by
    decide +kernel
  have unanswered : ∃ measure ∈ recomposed.assessmentMeasures firstAssessment,
      recomposed.isAnswered firstAssessment measure = false := by
    decide +kernel
  obtain ⟨measure, asked, none⟩ := unanswered
  rw [complete.succeeds_iff.mp succeeds measure asked] at none
  cases none

end Recomposed

end RssiService.Assessments
