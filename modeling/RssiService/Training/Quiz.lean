import Mathlib.Data.Finset.Sort
import Mathlib.Data.String.Basic
import RssiService.Foundation.Run
import RssiService.Python.Float
import RssiService.Training.Courses

/-!
# The quiz of a course

The attempts used, the number of the next attempt and the passed flag are read
from the attempts that are kept.  The purge deletes old attempts; certificates
stay.
-/

namespace RssiService.Training

open Foundation Foundation.Run Python

structure AttemptAnswer where
  question : Nat
  selectedChoiceIds : List String
  isCorrect : Bool
  deriving DecidableEq, Repr

structure Attempt where
  id : Nat
  number : Nat
  score : Nat
  passed : Bool
  submittedAt : Nat
  answers : List AttemptAnswer
  deriving DecidableEq, Repr

instance : Identified Attempt := ⟨Attempt.id⟩

structure Certificate where
  id : Nat
  serial : String
  issuedAt : Nat
  learnerName : String
  courseTitle : String
  courseVersion : Nat
  companyName : String
  score : Nat
  deriving DecidableEq, Repr

instance : Identified Certificate := ⟨Certificate.id⟩

/-- One enrolment with its rows: the screens seen, the attempts and the
certificates. -/
structure Enrollment where
  version : CourseVersion
  courseTitle : String
  learnerName : String
  companyName : String
  extraAttempts : Nat
  attemptsGrantedBy : Option Nat
  attemptsGrantedAt : Option Nat
  seen : List Nat
  attempts : Table Attempt
  certificates : Table Certificate

def Enrollment.attemptsAllowed (enrollment : Enrollment) : Nat :=
  enrollment.version.maxAttempts + enrollment.extraAttempts

inductive QuizFailure where
  | refused (message : String)
  | training (message : String)
  | registration (message : String)
  | numberTaken
  deriving DecidableEq, Repr

/-! ## The state of a session -/

structure SessionState where
  screens : List (Nat × Bool)
  screensTotal : Nat
  screensCompleted : Nat
  resumeIndex : Nat
  quizUnlocked : Bool
  passThreshold : Nat
  attemptsUsed : Nat
  attemptsAllowed : Nat
  passed : Bool
  certificate : Option Certificate

def etatDeSession (library : Library) (enrollment : Enrollment) : SessionState :=
  let screens := library.screensOf enrollment.version.id
  { screens := screens.map fun screen => (screen.id, enrollment.seen.contains screen.id)
    screensTotal := screens.length
    screensCompleted := enrollment.seen.length
    resumeIndex :=
      match screens.findIdx? fun screen => !enrollment.seen.contains screen.id with
      | some position => position
      | none => screens.length - 1
    quizUnlocked := !screens.isEmpty && screens.length ≤ enrollment.seen.length
    passThreshold := enrollment.version.passThreshold
    attemptsUsed := enrollment.attempts.rows.length
    attemptsAllowed := enrollment.attemptsAllowed
    passed := enrollment.attempts.rows.any Attempt.passed
    certificate := enrollment.certificates.rows.head? }

/-- Mark a screen as seen, once. -/
def marquerEcranVu (library : Library) (enrollment : Enrollment) (screen : Nat) :
    Except QuizFailure Enrollment :=
  if (library.screensOf enrollment.version.id).any fun row => row.id = screen then
    .ok { enrollment with
      seen :=
        if enrollment.seen.contains screen then enrollment.seen else enrollment.seen ++ [screen] }
  else .error (.training "Cet écran n'appartient pas à ce cours.")

/-! ## Submissions -/

/-- The answers of a learner: the choices of each question, by their texts. -/
abbrev Answered := String → List String

/-- Right is exactly the right answers; a single choice is one choice. -/
def corriger (question : Question) (chosen expected : Finset String) : Bool :=
  if question.kind = .single ∧ chosen.card ≠ 1 then false
  else decide (chosen.Nonempty ∧ chosen = expected)

/-- A question with what was chosen, what was expected and whether it is right. -/
structure Correction where
  question : Question
  chosen : Finset String
  expected : Finset String
  correct : Bool

def corrections (library : Library) (questions : List Question) (answered : Answered) :
    List Correction :=
  questions.map fun question =>
    let chosen := (answered (toString question.id)).toFinset
    let expected := ((library.correctChoices question.id).map fun choice =>
      toString choice.id).toFinset
    { question, chosen, expected, correct := corriger question chosen expected }

def scoreOf (detail : List Correction) : Nat :=
  halfEven (100 * detail.countP Correction.correct) detail.length

/-- The screens of the questions that are wrong, each once, in the order of the
course. -/
def ecransARevoir (library : Library) (detail : List Correction) : List Screen :=
  let wrong := (detail.filter fun correction => !correction.correct).map fun correction =>
    correction.question.screen
  (library.screens.rows.filter fun screen => wrong.contains screen.id).insertionSort
    fun first second => first.order ≤ second.order

structure QuizResult where
  score : Nat
  passed : Bool
  passThreshold : Nat
  attemptNumber : Nat
  attemptsUsed : Nat
  attemptsAllowed : Nat
  questions : List Correction
  screensToReview : List Screen
  certificate : Option Certificate

/-- The checks of a submission; they give the questions to correct. -/
def quizGuard (library : Library) (enrollment : Enrollment) (answered : Answered) :
    Except QuizFailure (List Question) :=
  let questions := library.questionsOf enrollment.version.id
  let state := etatDeSession library enrollment
  if questions.isEmpty then .error (.refused "Ce cours ne comporte pas encore de quiz.")
  else if state.passed then .error (.refused "Vous avez déjà réussi ce cours.")
  else if !state.quizUnlocked then
    .error (.refused
      "Terminez d'abord les écrans du cours : le quiz porte sur ce qui y est expliqué.")
  else if state.attemptsAllowed ≤ state.attemptsUsed then
    .error (.refused ("Vous avez utilisé vos essais. Demandez à votre responsable de vous en " ++
      "accorder un nouveau."))
  else
    let missing := questions.filter fun question => (answered (toString question.id)).isEmpty
    if missing.isEmpty then .ok questions
    else
      .error (.refused ("Il reste " ++ toString missing.length ++
        " question(s) sans réponse. Répondez à tout avant de valider."))

/-- Create an attempt; the constraint admits one attempt of each number. -/
def createAttempt (attempts : Table Attempt) (number score : Nat) (passed : Bool) (now : Nat)
    (answers : List AttemptAnswer) : Except QuizFailure (Table Attempt) :=
  if attempts.rows.any fun row => row.number = number then .error .numberTaken
  else
    .ok (attempts.create (fun key => ⟨key, number, score, passed, now, answers⟩) fun _ => rfl)

/-- The certificate of the enrolment, or a new one with the labels of the moment. -/
def delivrerLattestation (enrollment : Enrollment) (score : Nat) (serial : String) (now : Nat) :
    Table Certificate × Certificate :=
  match enrollment.certificates.rows.head? with
  | some existing => (enrollment.certificates, existing)
  | none =>
      let build (key : Nat) : Certificate :=
        ⟨key, serial, now, enrollment.learnerName, enrollment.courseTitle,
          enrollment.version.number, enrollment.companyName, score⟩
      (enrollment.certificates.create build fun _ => rfl,
        build enrollment.certificates.next)

/-- A submission is one transaction: the attempt with its answers, and the
certificate of an attempt that passes. -/
def soumettreLeQuiz (library : Library) (enrollment : Enrollment) (answered : Answered)
    (serial : String) (now : Nat) : Except QuizFailure (Enrollment × QuizResult) := do
  let questions ← quizGuard library enrollment answered
  let number := enrollment.attempts.rows.length + 1
  let detail := corrections library questions answered
  let score := scoreOf detail
  let passed := decide (enrollment.version.passThreshold ≤ score)
  let answers := detail.map fun correction =>
    ⟨correction.question.id, correction.chosen.sort (· ≤ ·), correction.correct⟩
  let attempts ← createAttempt enrollment.attempts number score passed now answers
  let delivered :=
    if passed then
      let (certificates, certificate) := delivrerLattestation enrollment score serial now
      (certificates, some certificate)
    else (enrollment.certificates, none)
  return ({ enrollment with attempts, certificates := delivered.1 },
    { score, passed, passThreshold := enrollment.version.passThreshold, attemptNumber := number
      attemptsUsed := number, attemptsAllowed := enrollment.attemptsAllowed, questions := detail
      screensToReview := ecransARevoir library detail, certificate := delivered.2 })

/-! ## Grants and purges -/

def accorderDesEssais (enrollment : Enrollment) (count : Int) (actor : Option Nat) (now : Nat) :
    Except QuizFailure Enrollment :=
  if count < 1 then
    .error (.registration "Le nombre d'essais accordés doit être d'au moins un.")
  else
    .ok { enrollment with
      extraAttempts := enrollment.extraAttempts + count.toNat
      attemptsGrantedBy := actor
      attemptsGrantedAt := some now }

def retentionSeconds (months : Nat) : Nat := months * 30 * 24 * 60 * 60

/-- The attempt is older than the retention of results. -/
def Attempt.expired (months now : Nat) (attempt : Attempt) : Bool :=
  attempt.submittedAt + retentionSeconds months < now

def purgerLesResultats (months now : Nat) (enrollment : Enrollment) : Enrollment :=
  { enrollment with attempts := enrollment.attempts.deleteWhere (Attempt.expired months now) }

/-! ## Runs -/

/-- An enrolment, and how many of its attempts the purges have deleted. -/
structure Career where
  enrollment : Enrollment
  purged : Nat

/-- The attempts ever submitted: those that are kept and those that were purged. -/
def Career.submitted (career : Career) : Nat :=
  career.enrollment.attempts.rows.length + career.purged

inductive QuizEvent where
  | seen (screen : Nat)
  | submit (answered : Answered) (serial : String) (now : Nat)
  | grant (count : Int) (actor : Option Nat) (now : Nat)
  | purge (months now : Nat)

/-- An operation that is refused changes nothing. -/
def quizStep (library : Library) (career : Career) : QuizEvent → Career
  | .seen screen =>
      match marquerEcranVu library career.enrollment screen with
      | .ok enrollment => { career with enrollment }
      | .error _ => career
  | .submit answered serial now =>
      match soumettreLeQuiz library career.enrollment answered serial now with
      | .ok (enrollment, _) => { career with enrollment }
      | .error _ => career
  | .grant count actor now =>
      match accorderDesEssais career.enrollment count actor now with
      | .ok enrollment => { career with enrollment }
      | .error _ => career
  | .purge months now =>
      { enrollment := purgerLesResultats months now career.enrollment
        purged := career.purged +
          career.enrollment.attempts.rows.countP (Attempt.expired months now) }

/-- No more attempts than allowed, one certificate at most, and the session says
passed exactly where there is one. -/
structure Consistent (library : Library) (career : Career) : Prop where
  submitted_le : career.submitted ≤ career.enrollment.attemptsAllowed
  one_certificate : career.enrollment.certificates.rows.length ≤ 1
  passed_iff : (etatDeSession library career.enrollment).passed = true ↔
    (etatDeSession library career.enrollment).certificate.isSome = true

/-- A submission does not fail on a number that is taken. -/
def NumberAccepted (library : Library) (career : Career) : QuizEvent → Prop
  | .submit answered serial now =>
      ∀ failure, soumettreLeQuiz library career.enrollment answered serial now = .error failure →
        failure ≠ .numberTaken
  | _ => True

/-- A submission that passes the checks finds its number free and the purged
attempts within what is allowed; a purge keeps an attempt that passed, if any. -/
def SparedByPurges (library : Library) (career : Career) : QuizEvent → Prop
  | .submit answered _ _ =>
      (∃ questions, quizGuard library career.enrollment answered = .ok questions) →
        (∀ attempt ∈ career.enrollment.attempts,
          attempt.number ≠ career.enrollment.attempts.rows.length + 1) ∧
        career.submitted < career.enrollment.attemptsAllowed
  | .purge months now =>
      (∃ attempt ∈ career.enrollment.attempts, attempt.passed = true) →
        ∃ attempt ∈ career.enrollment.attempts,
          attempt.passed = true ∧ attempt.expired months now = false
  | _ => True

section Steps

variable {library : Library} {career : Career}

theorem passed_iff_exists {enrollment : Enrollment} :
    (etatDeSession library enrollment).passed = true ↔
      ∃ attempt ∈ enrollment.attempts, attempt.passed = true := by
  simp [etatDeSession, Table.mem_def]

theorem certificate_isSome {enrollment : Enrollment} :
    (etatDeSession library enrollment).certificate.isSome = true ↔
      enrollment.certificates.rows ≠ [] := by
  simp [etatDeSession, ← List.isEmpty_eq_false_iff]

/-- The checks let through an enrolment that has not passed and has attempts left. -/
theorem quizGuard_cases (library : Library) (enrollment : Enrollment) (answered : Answered) :
    (∃ message, quizGuard library enrollment answered = .error (.refused message)) ∨
      ∃ questions, quizGuard library enrollment answered = .ok questions ∧
        (etatDeSession library enrollment).passed = false ∧
        enrollment.attempts.rows.length < enrollment.attemptsAllowed := by
  unfold quizGuard
  dsimp only
  split
  · exact Or.inl ⟨_, rfl⟩
  · split
    · exact Or.inl ⟨_, rfl⟩
    · rename_i notPassed
      split
      · exact Or.inl ⟨_, rfl⟩
      · split
        · exact Or.inl ⟨_, rfl⟩
        · rename_i left
          split
          · exact Or.inr ⟨_, rfl, Bool.eq_false_of_not_eq_true notPassed, Nat.lt_of_not_le left⟩
          · exact Or.inl ⟨_, rfl⟩

/-- What a submission leaves: one more attempt, and a certificate where it passed. -/
structure Submits (before after : Enrollment) (attempt : Attempt) : Prop where
  attempts : after.attempts.rows = before.attempts.rows ++ [attempt]
  number : attempt.number = before.attempts.rows.length + 1
  allowed : after.attemptsAllowed = before.attemptsAllowed
  certificates : ∃ score serial now, after.certificates =
    if attempt.passed then (delivrerLattestation before score serial now).1
    else before.certificates

/-- A submission is refused by the checks, fails on its number, or is recorded. -/
theorem soumettreLeQuiz_cases (library : Library) (enrollment : Enrollment) (answered : Answered)
    (serial : String) (now : Nat) :
    (∃ message, quizGuard library enrollment answered = .error (.refused message) ∧
        soumettreLeQuiz library enrollment answered serial now = .error (.refused message)) ∨
      (∃ questions, quizGuard library enrollment answered = .ok questions) ∧
        (etatDeSession library enrollment).passed = false ∧
        ((∃ attempt ∈ enrollment.attempts,
              attempt.number = enrollment.attempts.rows.length + 1) ∧
            soumettreLeQuiz library enrollment answered serial now = .error .numberTaken ∨
          (∀ attempt ∈ enrollment.attempts,
              attempt.number ≠ enrollment.attempts.rows.length + 1) ∧
            ∃ after result attempt,
              soumettreLeQuiz library enrollment answered serial now = .ok (after, result) ∧
              Submits enrollment after attempt) := by
  rcases quizGuard_cases library enrollment answered with
    ⟨message, refuses⟩ | ⟨questions, passes, notPassed, _⟩
  · refine Or.inl ⟨message, refuses, ?_⟩
    rw [soumettreLeQuiz, refuses]
    rfl
  · refine Or.inr ⟨⟨questions, passes⟩, notPassed, ?_⟩
    rw [soumettreLeQuiz, passes]
    simp only [bind, Except.bind, createAttempt]
    by_cases taken : ∃ attempt ∈ enrollment.attempts,
        attempt.number = enrollment.attempts.rows.length + 1
    · refine Or.inl ⟨taken, ?_⟩
      rw [if_pos]
      obtain ⟨attempt, inside, same⟩ := taken
      exact List.any_eq_true.mpr ⟨attempt, inside, decide_eq_true same⟩
    · have free : ∀ attempt ∈ enrollment.attempts,
          attempt.number ≠ enrollment.attempts.rows.length + 1 := by
        intro attempt inside same
        exact taken ⟨attempt, inside, same⟩
      refine Or.inr ⟨free, ?_⟩
      rw [if_neg]
      · refine ⟨_, _, _, rfl, rfl, rfl, rfl, scoreOf (corrections library questions answered), serial,
          now, ?_⟩
        dsimp only
        split <;> rfl
      · intro found
        obtain ⟨attempt, inside, same⟩ := List.any_eq_true.mp found
        exact taken ⟨attempt, inside, of_decide_eq_true same⟩

/-- A recorded submission of an enrolment that has not passed. -/
theorem consistent_submit_iff {after : Enrollment} {attempt : Attempt}
    (consistent : Consistent library career)
    (notPassed : (etatDeSession library career.enrollment).passed = false)
    (submits : Submits career.enrollment after attempt) :
    Consistent library { career with enrollment := after } ↔
      career.submitted < career.enrollment.attemptsAllowed := by
  have none : career.enrollment.certificates.rows = [] := by
    by_contra some
    have passed := consistent.passed_iff.mpr (certificate_isSome.mpr some)
    rw [notPassed] at passed
    cases passed
  obtain ⟨score, serial, now, certificates⟩ := submits.certificates
  have length : after.attempts.rows.length = career.enrollment.attempts.rows.length + 1 := by
    rw [submits.attempts, List.length_append, List.length_singleton]
  have passed : (etatDeSession library after).passed = attempt.passed := by
    have before : (career.enrollment.attempts.rows.any Attempt.passed) = false := notPassed
    simp [etatDeSession, submits.attempts, before]
  have bound : Career.submitted { career with enrollment := after } ≤ after.attemptsAllowed ↔
      career.submitted < career.enrollment.attemptsAllowed := by
    simp only [Career.submitted, length, submits.allowed]
    omega
  constructor
  · intro sound
    exact bound.mp sound.submitted_le
  · intro room
    cases verdict : attempt.passed with
    | false =>
        rw [verdict, if_neg Bool.false_ne_true] at certificates
        refine ⟨bound.mpr room, ?_, ?_⟩
        · rw [certificates]
          exact consistent.one_certificate
        · rw [passed, verdict, certificate_isSome, certificates, none]
          simp
    | true =>
        rw [verdict, if_pos rfl, delivrerLattestation, none] at certificates
        have rows : after.certificates.rows.length = 1 := by
          rw [certificates, List.head?_nil]
          simp [Table.create, none]
        refine ⟨bound.mpr room, rows.le, ?_⟩
        rw [passed, verdict, certificate_isSome, ← List.length_pos_iff, rows]
        simp

/-- A purge keeps an enrolment consistent exactly where it keeps an attempt that
passed, if there is one. -/
theorem consistent_purge_iff {months now : Nat} (consistent : Consistent library career) :
    Consistent library (quizStep library career (.purge months now)) ↔
      SparedByPurges library career (.purge months now) := by
  have kept : (etatDeSession library (purgerLesResultats months now career.enrollment)).passed =
      true ↔ ∃ attempt ∈ career.enrollment.attempts,
        attempt.passed = true ∧ attempt.expired months now = false := by
    rw [passed_iff_exists, purgerLesResultats]
    simp only [Table.mem_deleteWhere]
    constructor
    · rintro ⟨attempt, ⟨inside, young⟩, passed⟩
      exact ⟨attempt, inside, passed, young⟩
    · rintro ⟨attempt, inside, passed, young⟩
      exact ⟨attempt, ⟨inside, young⟩, passed⟩
  have same : (etatDeSession library (purgerLesResultats months now
      career.enrollment)).certificate = (etatDeSession library career.enrollment).certificate := rfl
  have submitted : (quizStep library career (.purge months now)).submitted = career.submitted := by
    have split : career.enrollment.attempts.rows.length = _ :=
      List.length_eq_countP_add_countP (Attempt.expired months now)
    simp only [quizStep, Career.submitted, purgerLesResultats, Table.deleteWhere,
      ← List.countP_eq_length_filter, split, decide_not, Bool.decide_eq_true]
    omega
  rw [SparedByPurges, ← passed_iff_exists, ← kept]
  constructor
  · intro after passed
    refine after.passed_iff.mpr ?_
    exact consistent.passed_iff.mp passed
  · intro keeps
    refine ⟨submitted.le.trans consistent.submitted_le, consistent.one_certificate, ?_⟩
    refine Iff.trans ⟨fun young => ?_, keeps⟩ consistent.passed_iff
    obtain ⟨attempt, inside, passed, _⟩ := kept.mp young
    exact passed_iff_exists.mpr ⟨attempt, inside, passed⟩

/-- What one operation keeps. -/
theorem consistent_step_iff {event : QuizEvent} (consistent : Consistent library career) :
    Consistent library (quizStep library career event) ∧ NumberAccepted library career event ↔
      SparedByPurges library career event := by
  cases event with
  | seen screen =>
      refine iff_of_true ⟨?_, trivial⟩ trivial
      rw [quizStep, marquerEcranVu]
      split
      · rename_i enrollment marked
        split at marked
        · cases marked
          exact ⟨consistent.submitted_le, consistent.one_certificate, consistent.passed_iff⟩
        · cases marked
      · exact consistent
  | grant count actor now =>
      refine iff_of_true ⟨?_, trivial⟩ trivial
      rw [quizStep, accorderDesEssais]
      split
      · rename_i enrollment granted
        split at granted
        · cases granted
        · cases granted
          refine ⟨?_, consistent.one_certificate, consistent.passed_iff⟩
          refine consistent.submitted_le.trans ?_
          simp only [Enrollment.attemptsAllowed]
          omega
      · exact consistent
  | purge months now =>
      rw [consistent_purge_iff consistent]
      exact and_iff_left trivial
  | submit answered serial now =>
      simp only [quizStep, NumberAccepted, SparedByPurges]
      rcases soumettreLeQuiz_cases library career.enrollment answered serial now with
        ⟨message, refuses, fails⟩ | ⟨passes, notPassed, ⟨taken, fails⟩ | ⟨free, after, result,
          attempt, records, submits⟩⟩
      · rw [fails, refuses]
        refine iff_of_true ⟨consistent, ?_⟩ ?_
        · rintro _ ⟨⟩
          simp
        · rintro ⟨questions, impossible⟩
          cases impossible
      · rw [fails]
        refine iff_of_false ?_ ?_
        · rintro ⟨_, accepted⟩
          exact accepted _ rfl rfl
        · intro spared
          obtain ⟨attempt, inside, same⟩ := taken
          exact (spared passes).1 attempt inside same
      · rw [records]
        dsimp only
        rw [consistent_submit_iff consistent notPassed submits]
        constructor
        · rintro ⟨room, _⟩ _
          exact ⟨free, room⟩
        · intro spared
          refine ⟨(spared passes).2, ?_⟩
          intro failure impossible
          cases impossible

/-- Over any run of an enrolment, there are at most as many attempts as allowed
and one certificate, the session says passed exactly where it exists and no
submission fails on its number, exactly when the purges spare it. -/
theorem quiz_consistent_iff (library : Library) (start : Career)
    (consistent : Consistent library start) (events : List QuizEvent) :
    (Always (quizStep library) (Consistent library) start events ∧
        EachStep (quizStep library) (NumberAccepted library) start events) ↔
      EachStep (quizStep library) (SparedByPurges library) start events :=
  always_and_eachStep_iff (fun _ _ => consistent_step_iff) consistent events

/-! ## Without purges -/

def QuizEvent.isPurge : QuizEvent → Bool
  | .purge _ _ => true
  | _ => false

/-- Nothing was purged and the attempts are numbered up to their count. -/
structure Unpurged (career : Career) : Prop where
  purged_eq : career.purged = 0
  number_le : ∀ attempt ∈ career.enrollment.attempts,
    attempt.number ≤ career.enrollment.attempts.rows.length

theorem spared_of_unpurged {event : QuizEvent} (unpurged : Unpurged career)
    (other : event.isPurge = false) : SparedByPurges library career event := by
  cases event with
  | seen screen => trivial
  | grant count actor now => trivial
  | purge months now => cases other
  | submit answered serial now =>
      rintro ⟨questions, passes⟩
      rcases quizGuard_cases library career.enrollment answered with
        ⟨message, refuses⟩ | ⟨_, _, _, left⟩
      · cases refuses.symm.trans passes
      · refine ⟨fun attempt inside same => ?_, ?_⟩
        · have bound := unpurged.number_le attempt inside
          omega
        · rwa [Career.submitted, unpurged.purged_eq, Nat.add_zero]

theorem unpurged_quizStep {event : QuizEvent} (unpurged : Unpurged career)
    (other : event.isPurge = false) : Unpurged (quizStep library career event) := by
  cases event with
  | seen screen =>
      rw [quizStep, marquerEcranVu]
      split
      · rename_i enrollment marked
        split at marked
        · cases marked
          exact ⟨unpurged.purged_eq, unpurged.number_le⟩
        · cases marked
      · exact unpurged
  | grant count actor now =>
      rw [quizStep, accorderDesEssais]
      split
      · rename_i enrollment granted
        split at granted
        · cases granted
        · cases granted
          exact ⟨unpurged.purged_eq, unpurged.number_le⟩
      · exact unpurged
  | purge months now => cases other
  | submit answered serial now =>
      simp only [quizStep]
      rcases soumettreLeQuiz_cases library career.enrollment answered serial now with
        ⟨message, _, fails⟩ | ⟨_, _, ⟨_, fails⟩ | ⟨_, after, result, attempt, records, submits⟩⟩
      · rw [fails]
        exact unpurged
      · rw [fails]
        exact unpurged
      · rw [records]
        refine ⟨unpurged.purged_eq, fun other inside => ?_⟩
        rw [Table.mem_def, submits.attempts, List.mem_append, List.mem_singleton] at inside
        rw [submits.attempts, List.length_append, List.length_singleton]
        rcases inside with old | rfl
        · exact (unpurged.number_le other old).trans (Nat.le_succ _)
        · exact submits.number.le

/-- An enrolment that no purge reaches is spared. -/
theorem spared_of_no_purge {start : Career} (unpurged : Unpurged start) {events : List QuizEvent}
    (none : ∀ event ∈ events, event.isPurge = false) :
    EachStep (quizStep library) (SparedByPurges library) start events := by
  induction events generalizing start with
  | nil => trivial
  | cons event rest ih =>
      rw [List.forall_mem_cons] at none
      exact ⟨spared_of_unpurged unpurged none.1, ih (unpurged_quizStep unpurged none.1) none.2⟩

end Steps

/-! A course of one screen and one question. -/

def oneQuestion : Library where
  courses := Table.empty
  versions := Table.empty
  screens := Table.empty.create (fun key => ⟨key, 0, 1, "Mots de passe", [], 60⟩) fun _ => rfl
  questions := Table.empty.create
    (fun key => ⟨key, 0, 1, "Faut-il partager un mot de passe ?", .single, "Jamais.", 0⟩)
    fun _ => rfl
  choices := Table.empty.createAll (fun value key => ⟨key, 0, key + 1, value.1, value.2⟩)
    (fun _ _ => rfl) [("Oui", false), ("Non", true)]

def enrolled : Career where
  enrollment :=
    { version := ⟨0, 0, 1, some 0, 70, 3, ""⟩, courseTitle := "Mots de passe"
      learnerName := "Jean", companyName := "Acme", extraAttempts := 0
      attemptsGrantedBy := none, attemptsGrantedAt := none, seen := [0]
      attempts := Table.empty, certificates := Table.empty }
  purged := 0

def answeredWith (choice : String) : Answered := fun _ => [choice]

def wrongAt (now : Nat) : QuizEvent := .submit (answeredWith "0") "2026-0A" now

def rightAt (now : Nat) : QuizEvent := .submit (answeredWith "1") "2026-0B" now

def purgeAt (now : Nat) : QuizEvent := .purge 24 now

theorem quiz_consistent_iff_enrolled :
    (Always (quizStep oneQuestion) (Consistent oneQuestion) enrolled [wrongAt 0, rightAt 9] ∧
        EachStep (quizStep oneQuestion) (NumberAccepted oneQuestion) enrolled
          [wrongAt 0, rightAt 9]) ↔
      EachStep (quizStep oneQuestion) (SparedByPurges oneQuestion) enrolled
        [wrongAt 0, rightAt 9] :=
  quiz_consistent_iff oneQuestion enrolled ⟨by decide, by decide, by decide⟩ _

/-- A purge forgets that an enrolment passed; it gives back attempts beyond what is
allowed; and it leaves a number that the next submission takes again. -/
theorem purge_unsettles :
    ¬ Always (quizStep oneQuestion) (Consistent oneQuestion) enrolled
        [rightAt 0, purgeAt (retentionSeconds 24 + 1)] ∧
      ¬ Always (quizStep oneQuestion) (Consistent oneQuestion) enrolled
        [wrongAt 0, wrongAt 0, wrongAt 0, purgeAt (retentionSeconds 24 + 1),
          wrongAt (retentionSeconds 24 + 2)] ∧
      ¬ EachStep (quizStep oneQuestion) (NumberAccepted oneQuestion) enrolled
        [wrongAt 0, wrongAt 9, wrongAt 9, purgeAt (retentionSeconds 24 + 1),
          wrongAt (retentionSeconds 24 + 2)] := by
  refine ⟨fun always => ?_, fun always => ?_, fun each => ?_⟩
  · have passed := always.last.passed_iff
    revert passed
    decide +kernel
  · have bound := always.last.submitted_le
    revert bound
    decide +kernel
  · obtain ⟨_, _, _, _, accepted, _⟩ := each
    have taken : ((soumettreLeQuiz oneQuestion (after (quizStep oneQuestion) enrolled
        [wrongAt 0, wrongAt 9, wrongAt 9, purgeAt (retentionSeconds 24 + 1)]).enrollment
        (answeredWith "0") "2026-0A" (retentionSeconds 24 + 2)).map fun _ => ()) =
          .error .numberTaken := by
      decide +kernel
    rcases outcome : soumettreLeQuiz oneQuestion _ (answeredWith "0") "2026-0A"
        (retentionSeconds 24 + 2) with failure | result
    · rw [outcome] at taken
      exact accepted failure outcome (Except.error.inj taken)
    · rw [outcome] at taken
      cases taken

end RssiService.Training
