import RssiService.Foundation.Leading
import RssiService.Training.Evidence

/-!
# The questions that are failed most

The questions of a report are those with enough answers, and an answer is given in an
attempt.  An employee has an attempt for each time they take the quiz.
-/

namespace RssiService.Training

open Foundation Foundation.Run Foundation.Leading Python

/-- A question of the report, with the answers that it has received. -/
structure QuestionRatee where
  questionId : Nat
  text : String
  courseTitle : String
  screenTitle : String
  screenOrder : Nat
  answers : Nat
  failed : Nat
  failureRate : Nat
  deriving DecidableEq, Repr

/-- The higher rate comes first, then the greater number of answers. -/
def QuestionRatee.avant (first second : QuestionRatee) : Prop :=
  second.failureRate < first.failureRate ∨
    second.failureRate = first.failureRate ∧ second.answers ≤ first.answers

instance : DecidableRel QuestionRatee.avant := fun first second => inferInstanceAs
  (Decidable (second.failureRate < first.failureRate ∨
    second.failureRate = first.failureRate ∧ second.answers ≤ first.answers))

/-- The order of the questions in the base. -/
def Question.rangee (first second : Question) : Prop :=
  first.version < second.version ∨
    first.version = second.version ∧ first.order ≤ second.order

instance : DecidableRel Question.rangee := fun first second => inferInstanceAs
  (Decidable (first.version < second.version ∨
    first.version = second.version ∧ first.order ≤ second.order))

def minimumReponses : Nat := 3

namespace TrainingSite

/-- The answers of a company, in one course or in all, each with the employee who gave
it.  An enrolment that was revoked keeps its answers. -/
def reponses (site : TrainingSite) (tenant : Nat) (course : Option Nat) :
    List (Nat × AttemptAnswer) :=
  (site.inscriptions.rows.filter fun row =>
    row.tenant = tenant && course.all fun course => site.courseOf row = some course).flatMap
      fun row => row.parcours.attempts.rows.flatMap fun attempt =>
        attempt.answers.map fun answer => (row.learner, answer)

/-- The answers to one question. -/
def reponsesA (site : TrainingSite) (tenant : Nat) (course : Option Nat) (question : Nat) :
    List (Nat × AttemptAnswer) :=
  (site.reponses tenant course).filter fun answer => answer.2.question = question

/-- The employees who have answered a question. -/
def repondants (site : TrainingSite) (tenant : Nat) (course : Option Nat) (question : Nat) :
    List Nat :=
  ((site.reponsesA tenant course question).map Prod.fst).dedup

def ligne (site : TrainingSite) (tenant : Nat) (course : Option Nat) (question : Question) :
    QuestionRatee :=
  let reponses := site.reponsesA tenant course question.id
  let ratees := reponses.countP fun answer => !answer.2.isCorrect
  let screen := site.library.screens.find? question.screen
  let ofCourse := (site.library.versions.find? question.version).bind fun version =>
    site.library.courses.find? version.course
  { questionId := question.id
    text := question.text
    courseTitle := (ofCourse.map Course.title).getD ""
    screenTitle := (screen.map Screen.title).getD ""
    screenOrder := (screen.map Screen.order).getD 0
    answers := reponses.length
    failed := ratees
    failureRate := pourcent ratees reponses.length }

/-- The questions that have received enough answers, in the order of the base. -/
def questionsRetenues (site : TrainingSite) (tenant : Nat) (course : Option Nat) : List Question :=
  (site.library.questions.rows.filter fun question =>
    minimumReponses ≤ (site.reponsesA tenant course question.id).length).insertionSort
      Question.rangee

/-- What the company does not master. -/
def questionsLesPlusRatees (site : TrainingSite) (tenant : Nat) (course : Option Nat)
    (limite : Nat) : List QuestionRatee :=
  (((site.questionsRetenues tenant course).map (site.ligne tenant course)).insertionSort
    QuestionRatee.avant).take limite

/-! ## Ranks -/

section Ranks

variable {site : TrainingSite} {tenant : Nat} {course : Option Nat} {limite : Nat}

/-- The order of the report, before the questions of the same figures are compared. -/
def plusRatee (site : TrainingSite) (tenant : Nat) (course : Option Nat)
    (first second : Question) : Prop :=
  (site.ligne tenant course first).avant (site.ligne tenant course second)

instance : DecidableRel (site.plusRatee tenant course) := fun first second =>
  inferInstanceAs
      (Decidable ((site.ligne tenant course first).avant (site.ligne tenant course second)))

/-- A question comes before another one in the report: by its rate, its answers, its
version, its order, and at last its key. -/
def precede (site : TrainingSite) (tenant : Nat) (course : Option Nat) :
    Question → Question → Prop :=
  StableBefore (site.plusRatee tenant course)
    (StableBefore Question.rangee fun first second => first.id < second.id)

instance : DecidableRel (site.precede tenant course) := fun first second =>
  inferInstanceAs (Decidable (StableBefore (site.plusRatee tenant course)
    (StableBefore Question.rangee fun first second => first.id < second.id) first second))

instance : Std.Total (site.plusRatee tenant course) where
  total first second := by
    rw [plusRatee, plusRatee, QuestionRatee.avant, QuestionRatee.avant]
    omega

instance : IsTrans Question (site.plusRatee tenant course) where
  trans first second third := by
    simp only [plusRatee, QuestionRatee.avant]
    omega

instance : Std.Total Question.rangee where
  total first second := by
    rw [Question.rangee, Question.rangee]
    omega

instance : IsTrans Question Question.rangee where
  trans first second third := by
    simp only [Question.rangee]
    omega

theorem precede_asymm (first second : Question) (forth : site.precede tenant course first second) :
    ¬site.precede tenant course second first :=
  StableBefore.asymm
    (StableBefore.asymm fun _ _ lower => Nat.not_lt.mpr (Nat.le_of_lt lower)) first second
    forth

/-- The report is made of the first questions in the order of the report. -/
theorem questionsLesPlusRatees_eq :
    site.questionsLesPlusRatees tenant course limite =
      (((site.questionsRetenues tenant course).insertionSort (site.plusRatee tenant course)).take
        limite).map (site.ligne tenant course) := by
  rw [questionsLesPlusRatees, List.map_take]
  refine congrArg (List.take limite) ?_
  exact (List.map_insertionSort (site.plusRatee tenant course) QuestionRatee.avant
    (site.ligne tenant course) _ fun _ _ _ _ => Iff.rfl).symm

theorem mem_questionsRetenues {question : Question} :
    question ∈ site.questionsRetenues tenant course ↔ question ∈ site.library.questions ∧
      minimumReponses ≤ (site.reponsesA tenant course question.id).length := by
  rw [questionsRetenues, List.mem_insertionSort, List.mem_filter, decide_eq_true_eq]
  rfl

theorem pairwise_questionsRetenues (site : TrainingSite) (tenant : Nat) (course : Option Nat) :
    (site.questionsRetenues tenant course).Pairwise
      (StableBefore Question.rangee fun first second => first.id < second.id) :=
  pairwise_insertionSort (site.library.questions.increasing.sublist List.filter_sublist)

/-- A question is in the report when it is retained and few retained ones precede it. -/
theorem mem_leading_iff {question : Question} :
    question ∈ ((site.questionsRetenues tenant course).insertionSort
        (site.plusRatee tenant course)).take limite ↔
      question ∈ site.questionsRetenues tenant course ∧
        (site.questionsRetenues tenant course).countP
          (fun other => site.precede tenant course other question) < limite := by
  have ordered : ((site.questionsRetenues tenant course).insertionSort
      (site.plusRatee tenant course)).Pairwise (site.precede tenant course) :=
    pairwise_insertionSort (pairwise_questionsRetenues site tenant course)
  rw [mem_take_iff_countP ordered precede_asymm,
    List.mem_insertionSort, (List.perm_insertionSort _ _).countP_eq]

end Ranks

/-! ## Answers and employees -/

/-- In the report no question designates one or two employees. -/
def Discreet (site : TrainingSite) (tenant : Nat) (course : Option Nat) (limite : Nat) : Prop :=
  ∀ ligne ∈ site.questionsLesPlusRatees tenant course limite,
    3 ≤ (site.repondants tenant course ligne.questionId).length

/-- The report is discreet exactly when the questions with enough answers of too few
employees come after as many other ones as it shows. -/
theorem discreet_iff (site : TrainingSite) (tenant : Nat) (course : Option Nat) (limite : Nat) :
    site.Discreet tenant course limite ↔
      ∀ question ∈ site.library.questions,
        3 ≤ (site.reponsesA tenant course question.id).length →
          3 ≤ (site.repondants tenant course question.id).length ∨
            limite ≤ (site.questionsRetenues tenant course).countP
              fun other => site.precede tenant course other question := by
  rw [Discreet, questionsLesPlusRatees_eq, List.forall_mem_map]
  constructor
  · intro discreet question inside enough
    refine or_iff_not_imp_right.mpr fun few => ?_
    refine discreet question (mem_leading_iff.mpr ⟨mem_questionsRetenues.mpr ⟨inside, enough⟩, ?_⟩)
    exact Nat.not_le.mp few
  · intro others question shown
    obtain ⟨retained, few⟩ := mem_leading_iff.mp shown
    obtain ⟨inside, enough⟩ := mem_questionsRetenues.mp retained
    exact (others question inside enough).resolve_right (Nat.not_le.mpr few)

end TrainingSite

/-! An employee who takes the quiz of the company three times. -/

/-- The attempts of an employee who fails each time. -/
def failedAttempts : Enrollment :=
  ([wrongAt 0, wrongAt 1, wrongAt 2].foldl (quizStep oneQuestion) enrolled).enrollment

def retaken : TrainingSite :=
  { companySite with
    library :=
      { oneQuestion with courses := companyLibrary.courses, versions := companyLibrary.versions }
    inscriptions :=
      ⟨[{ finished 0 0 0 with parcours := failedAttempts }], 1, by decide, by decide⟩ }

theorem three_attempts_designate_one_employee : ¬retaken.Discreet 0 none 5 := by
  rw [TrainingSite.Discreet]
  decide +kernel

end RssiService.Training
