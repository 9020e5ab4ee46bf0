import Mathlib
import RssiService.Foundation.Outcome
import RssiService.Training.Quiz
import RssiService.Training.Studio

/-!
# Published quizzes can be won

A question with a single choice has at most one right choice when it is written, and
a copy of it too.  A publication finds at least one for each question.
-/

namespace RssiService.Training

open Foundation Run Interleaving Python

/-! ## Questions with a single choice -/

/-- How many of the choices of a question are right. -/
def Library.correctCount (library : Library) (question : Nat) : Nat :=
  library.choices.rows.countP fun choice => choice.question = question && choice.isCorrect

theorem length_correctChoices (library : Library) (question : Nat) :
    (library.correctChoices question).length = library.correctCount question := by
  have sorted := List.perm_insertionSort (fun first second : Choice => first.order ≤ second.order)
    (library.choices.rows.filter fun row => row.question = question)
  have same := (sorted.filter Choice.isCorrect).length_eq
  rw [List.filter_filter] at same
  rw [Library.correctChoices, Library.choicesOf, same, Library.correctCount,
    List.countP_eq_length_filter]
  refine congrArg List.length (List.filter_congr fun choice _ => ?_)
  exact Bool.and_comm _ _

/-- A question that is written with a single choice has at most one right choice. -/
def QuestionDraft.Fair (draft : QuestionDraft) : Prop :=
  draft.kind = .single → draft.choices.countP ChoiceDraft.isCorrect ≤ 1

/-- Single choices are single, and no quiz asks for more than the full score or allows no
attempt. -/
structure Fair (library : Library) : Prop where
  single : ∀ question ∈ library.questions, question.kind = .single →
    library.correctCount question.id ≤ 1
  answered : ∀ choice ∈ library.choices, choice.question < library.questions.next
  lenient : ∀ version ∈ library.versions, version.passThreshold ≤ 100 ∧ 0 < version.maxAttempts

def StudioWrite.Fair : StudioWrite → Prop
  | .createVersion _ _ passThreshold maxAttempts _ _ questions =>
      (passThreshold ≤ 100 ∧ 0 < maxAttempts) ∧ ∀ entry ∈ questions, entry.2.Fair
  | .addQuestion _ _ draft | .saveQuestion _ _ _ draft => draft.Fair
  | .load _ _ _ _ _ => False
  | _ => True

namespace Fair

variable {library after : Library} {version question screen order : Nat}

theorem addChoices {drafts : List ChoiceDraft} (fair : Fair library)
    (room : ∀ row ∈ library.questions, row.id = question → row.kind = .single →
      library.correctCount question + drafts.countP ChoiceDraft.isCorrect ≤ 1)
    (present : question < library.questions.next) :
    Fair (library.addChoices question drafts) := by
  have count (asked : Nat) : (library.addChoices question drafts).correctCount asked =
      library.correctCount asked +
        drafts.countP fun draft => question = asked && draft.isCorrect :=
    library.choices.countP_createAll (fun (draft : ChoiceDraft) key => draft.row question key)
      (fun _ _ => rfl) (fun choice => choice.question = asked && choice.isCorrect)
      (fun draft => question = asked && draft.isCorrect) (fun _ _ => rfl) drafts
  refine ⟨fun row member kind => ?_, fun choice member => ?_, fair.lenient⟩
  · rw [count]
    by_cases own : row.id = question
    · have bound := room row member own kind
      rw [own]
      simpa only [decide_true, Bool.true_and] using bound
    · have other : (fun draft : ChoiceDraft => (question = row.id : Bool) && draft.isCorrect) =
          fun _ => false := by
        funext draft
        rw [decide_eq_false fun same => own same.symm, Bool.false_and]
      rw [other, List.countP_false]
      exact fair.single row member kind
  · rcases Table.mem_createAll member with old | ⟨draft, _, key, rfl⟩
    · exact fair.answered choice old
    · exact present

theorem correctCount_next (fair : Fair library) :
    library.correctCount library.questions.next = 0 := by
  rw [Library.correctCount, List.countP_eq_zero]
  intro choice member counted
  have bound := fair.answered choice member
  have same := of_decide_eq_true (Bool.and_eq_true_iff.mp counted).1
  exact absurd bound (Nat.not_lt.mpr same.ge)

theorem addQuestion {draft : QuestionDraft} (fair : Fair library) (single : draft.Fair)
    (written : library.addQuestion version screen draft = some after) : Fair after := by
  rw [Library.addQuestion] at written
  split at written
  · cases written
  · obtain rfl := Option.some.inj written
    have created : Fair { library with
        questions := library.questions.create (draft.row version screen) fun _ => rfl } := by
      refine ⟨fun row member kind => ?_, fun choice member => ?_, fair.lenient⟩
      · have listed : row ∈ library.questions.create (draft.row version screen) fun _ => rfl :=
          member
        rcases Table.mem_create.mp listed with old | rfl
        · exact fair.single row old kind
        · exact (fair.correctCount_next).le.trans (Nat.zero_le 1)
      · exact (fair.answered choice member).trans (Nat.lt_succ_self _)
    refine created.addChoices (fun row member same kind => ?_) (Nat.lt_succ_self _)
    have listed : row ∈ library.questions.create (draft.row version screen) fun _ => rfl := member
    rcases Table.mem_create.mp listed with old | rfl
    · exact absurd same (Table.ne_next old)
    · have none := fair.correctCount_next
      change library.correctCount library.questions.next + _ ≤ 1
      rw [none, Nat.zero_add]
      exact single kind

theorem saveQuestion {draft : QuestionDraft} (fair : Fair library) (single : draft.Fair)
    (written : library.saveQuestion version question screen draft = some after) : Fair after := by
  rw [Library.saveQuestion] at written
  split at written
  · cases written
  · obtain rfl := Option.some.inj written
    have fewer (asked : Nat) :
        (library.choices.deleteWhere fun choice => choice.question = question).rows.countP
            (fun choice => choice.question = asked && choice.isCorrect) ≤
          library.correctCount asked :=
      Table.countP_deleteWhere_le _ _ _
    have emptied : (library.choices.deleteWhere fun choice =>
        choice.question = question).rows.countP
          (fun choice => choice.question = question && choice.isCorrect) = 0 := by
      rw [List.countP_eq_zero]
      intro choice member counted
      obtain ⟨_, kept⟩ := Table.mem_deleteWhere.mp member
      have own := (Bool.and_eq_true_iff.mp counted).1
      exact Bool.false_ne_true (kept.symm.trans own)
    have saved : Fair { library with
        questions := library.questions.put (draft.row version screen question)
        choices := library.choices.deleteWhere fun choice => choice.question = question } := by
      refine ⟨fun row member kind => ?_, fun choice member => ?_, fair.lenient⟩
      · rcases Table.mem_put.mp member with rfl | ⟨old, -⟩
        · exact emptied.le.trans (Nat.zero_le 1)
        · exact (fewer row.id).trans (fair.single row old kind)
      · have bound := fair.answered choice (Table.mem_deleteWhere.mp member).1
        exact bound.trans_le (Nat.le_max_left _ _)
    refine saved.addChoices (fun row member same kind => ?_) ?_
    · have own : row = draft.row version screen question := by
        rcases Table.mem_put.mp member with rfl | ⟨-, apart⟩
        · rfl
        · exact absurd same apart
      subst own
      change (library.choices.deleteWhere fun choice => choice.question = question).rows.countP
        (fun choice => choice.question = question && choice.isCorrect) + _ ≤ 1
      rw [emptied, Nat.zero_add]
      exact single kind
    · exact (Nat.lt_succ_self question).trans_le (Nat.le_max_right _ _)

theorem deleteQuestions (fair : Fair library) (selected : Question → Bool) :
    Fair (library.deleteQuestions selected) where
  single row member kind := by
    have kept := (Table.mem_deleteWhere.mp member).1
    exact (Table.countP_deleteWhere_le _ _ _).trans (fair.single row kept kind)
  answered choice member := fair.answered choice (Table.mem_deleteWhere.mp member).1
  lenient := fair.lenient

theorem deleteScreens (fair : Fair library) (selected : Screen → Bool) :
    Fair (library.deleteScreens selected) :=
  let deleted := fair.deleteQuestions _
  ⟨deleted.single, deleted.answered, deleted.lenient⟩

/-- A write that leaves the questions, the choices and the versions. -/
theorem of_same (fair : Fair library) (questions : after.questions = library.questions)
    (choices : after.choices = library.choices) (versions : after.versions = library.versions) :
    Fair after := by
  have count (asked : Nat) : after.correctCount asked = library.correctCount asked := by
    rw [Library.correctCount, choices, Library.correctCount]
  refine ⟨fun row member kind => ?_, fun choice member => ?_, fun version member => ?_⟩
  · rw [count]
    exact fair.single row (questions ▸ member) kind
  · rw [questions]
    exact fair.answered choice (choices ▸ member)
  · exact fair.lenient version (versions ▸ member)

theorem addScreen {draft : ScreenDraft} (fair : Fair library)
    (written : library.addScreen version draft = some after) : Fair after := by
  rw [Library.addScreen] at written
  split at written
  · cases written
  · obtain rfl := Option.some.inj written
    exact fair.of_same rfl rfl rfl

theorem saveScreen {draft : ScreenDraft} (fair : Fair library)
    (written : library.saveScreen version screen draft = some after) : Fair after := by
  rw [Library.saveScreen] at written
  split at written
  · cases written
  · obtain rfl := Option.some.inj written
    exact fair.of_same rfl rfl rfl

theorem setScreenOrder (fair : Fair library)
    (written : library.setScreenOrder version screen order = some after) : Fair after := by
  rw [Library.setScreenOrder] at written
  split at written
  · cases written
  · obtain rfl := Option.some.inj written
    exact fair.of_same rfl rfl rfl

theorem addContent {screens : List ScreenDraft} {questions : List (Nat × QuestionDraft)}
    (fair : Fair library) (single : ∀ entry ∈ questions, entry.2.Fair)
    (written : library.addContent version screens questions = some after) : Fair after := by
  rw [Library.addContent, Option.bind_eq_bind, Option.bind_eq_some_iff] at written
  obtain ⟨loaded, first, later⟩ := written
  have filled := Outcome.holds_foldlM (fun _ _ _ _ fair => fair.addScreen) fair first
  refine Outcome.holds_foldlM ?_ filled later
  rintro ⟨position, draft⟩ listed middle result fair asked
  dsimp only at asked
  split at asked
  · exact fair.addQuestion (single _ listed) asked
  · cases asked

theorem addCourse {target : CourseTarget} {course : Nat} (fair : Fair library)
    (written : library.addCourse target = some (after, course)) : Fair after := by
  cases target with
  | existing key =>
      cases written
      exact fair
  | new slug title summary owner =>
      rw [Library.addCourse] at written
      split at written
      · cases written
      · cases written
        exact fair.of_same rfl rfl rfl

theorem addVersion {course number passThreshold maxAttempts key : Nat} {changeNote : String}
    (fair : Fair library) (lenient : passThreshold ≤ 100 ∧ 0 < maxAttempts)
    (written : library.addVersion course number passThreshold maxAttempts changeNote =
      some (after, key)) : Fair after := by
  rw [Library.addVersion] at written
  split at written
  · cases written
  · cases written
    refine ⟨fair.single, fair.answered, fun row member => ?_⟩
    rcases Table.mem_create.mp member with old | rfl
    · exact fair.lenient row old
    · exact lenient

theorem publish {now : Nat} (fair : Fair library) : Fair (library.publish version now) := by
  refine ⟨fair.single, fair.answered, fun row member => ?_⟩
  simp only [Library.publish, Table.mem_modify] at member
  obtain ⟨source, inside, same⟩ := member
  have lenient := fair.lenient source inside
  split at same
  · subst same
    exact lenient
  · exact same ▸ lenient

theorem write {change : StudioWrite} (fair : Fair library) (single : change.Fair)
    (written : library.write? change = some after) : Fair after := by
  cases change with
  | createVersion course number passThreshold maxAttempts changeNote screens questions =>
      rw [Library.write?, Library.createVersion, Option.bind_eq_bind, Option.bind_eq_some_iff]
        at written
      obtain ⟨⟨first, key⟩, created, rest⟩ := written
      obtain ⟨⟨second, version⟩, added, filled⟩ := Option.bind_eq_some_iff.mp rest
      exact ((fair.addCourse created).addVersion single.1 added).addContent single.2 filled
  | addScreen version draft => exact fair.addScreen written
  | saveScreen version screen draft => exact fair.saveScreen written
  | reorderScreens version order =>
      exact Outcome.holds_foldlM (fun _ _ _ _ fair => fair.setScreenOrder) fair written
  | deleteScreen version screen =>
      obtain rfl := Option.some.inj written
      exact fair.deleteScreens _
  | addQuestion version screen draft => exact fair.addQuestion single written
  | saveQuestion version question screen draft => exact fair.saveQuestion single written
  | deleteQuestion version question =>
      obtain rfl := Option.some.inj written
      exact fair.deleteQuestions _
  | publish version now =>
      obtain rfl := Option.some.inj written
      exact fair.publish
  | retitle course title summary =>
      obtain rfl := Option.some.inj written
      exact fair.of_same rfl rfl rfl
  | load course found reset data now => exact single.elim

theorem applyStudio {change : StudioWrite} (fair : Fair library) (single : change.Fair) :
    Fair (library.applyStudio change) := by
  rw [Library.applyStudio]
  cases written : library.write? change with
  | none => exact fair
  | some after => exact fair.write single written

end Fair

/-! ## What the operations write -/

section Operations

variable {library : Library} {version : Nat} {slugify : String → String}

/-- The writes of an uninterrupted operation are fair. -/
abbrev WritesFair (operation : StudioProgram) (library : Library) : Prop :=
  operation.WritesFit Library.applyStudio (fun _ change => change.Fair) library

theorem WritesFair.versionModifiable {next : CourseVersion → StudioProgram}
    (writes : ∀ row, WritesFair (next row) library) :
    WritesFair (versionModifiable version next) library := by
  rw [Training.versionModifiable, WritesFair, Program.WritesFit]
  split
  · trivial
  · split
    · trivial
    · exact writes _

theorem countP_zipIdx {Value : Type*} (values : List Value) (rank : Nat) (counted : Value → Bool) :
    (values.zipIdx rank).countP (fun entry => counted entry.1) = values.countP counted := by
  have same := List.countP_map (p := counted) (f := Prod.fst) (l := values.zipIdx rank)
  rw [List.zipIdx_map_fst] at same
  exact same.symm

/-- A question that is not refused is fair. -/
theorem fair_of_not_refused (order : Nat) (text : String) {kind : Kind} {explanation : String}
    {choix : List (String × Bool)} (passes : questionRefused kind explanation choix = none) :
    QuestionDraft.Fair ⟨order, text, kind, explanation,
      (choix.zipIdx 1).map fun ((text, isCorrect), rank) =>
        ({ order := rank, text := strip text, isCorrect } : ChoiceDraft)⟩ := by
  intro single
  change kind = .single at single
  rw [List.countP_map]
  refine (countP_zipIdx choix 1 Prod.snd).le.trans ?_
  rw [questionRefused] at passes
  split at passes
  · cases passes
  · split at passes
    · cases passes
    · split at passes
      · cases passes
      · split at passes
        · cases passes
        · rename_i several
          rw [single] at several
          simpa using several

theorem fair_ecrireQuestion {question : Option Nat} {text explanation : String} {kind : Kind}
    {screen : Nat} {choix : List (String × Bool)} :
    WritesFair (ecrireQuestion version question text kind explanation screen choix) library := by
  refine WritesFair.versionModifiable fun row => ?_
  cases refused : questionRefused kind explanation choix with
  | some message => trivial
  | none =>
      simp only [Option.isSome_none, Bool.false_eq_true, if_false, WritesFair, Program.WritesFit]
      have fair (order : Nat) := fair_of_not_refused order (strip text) refused
      cases library.screenOf row.id screen with
      | none => trivial
      | some ecran =>
          cases question with
          | none =>
              exact ⟨fair (Library.nextOrder ((library.questionsOf row.id).map Question.order)),
                trivial⟩
          | some key =>
              simp only [Program.WritesFit]
              cases library.questionOf row.id key with
              | none => trivial
              | some asked => exact ⟨fair asked.order, trivial⟩

/-- A copy of a fair question is fair. -/
theorem fair_copiedQuestions {source : Nat} {screens : List Nat}
    {questions : List (Nat × QuestionDraft)} (fair : Fair library)
    (copied : library.copiedQuestions source screens = some questions) :
    ∀ entry ∈ questions, entry.2.Fair := by
  intro entry listed single
  obtain ⟨question, asked, same⟩ := Outcome.exists_of_mem_mapM copied listed
  obtain ⟨position, _, rfl⟩ := Option.map_eq_some_iff.mp same
  have member : question ∈ library.questions :=
    (List.mem_filter.mp ((List.mem_insertionSort _).mp asked)).1
  have bound := fair.single question member single
  rw [← length_correctChoices, Library.correctChoices, ← List.countP_eq_length_filter] at bound
  rw [List.countP_map]
  exact bound

theorem fair_recopierContenu {source : Nat}
    {next : List ScreenDraft → List (Nat × QuestionDraft) → StudioProgram} (fair : Fair library)
    (writes : ∀ screens questions, (∀ entry ∈ questions, entry.2.Fair) →
      WritesFair (next screens questions) library) :
    WritesFair (recopierContenu source next) library := by
  rw [recopierContenu]
  simp only [WritesFair, Program.WritesFit]
  cases copied : library.copiedQuestions source
      ((library.screensOf source).map Screen.id) with
  | none => trivial
  | some questions => exact writes _ _ (fair_copiedQuestions fair copied)

theorem mem_of_draftVersion {course : Nat} {row : CourseVersion}
    (found : library.draftVersion course = some row) : row ∈ library.versions := by
  have listed := List.mem_filter.mp (List.mem_of_mem_head? found)
  exact (List.mem_filter.mp ((List.mem_insertionSort _).mp listed.1)).1

theorem fair_nouvelleVersion {course : Nat} {changeNote : String} (fair : Fair library) :
    WritesFair (nouvelleVersion course changeNote) library := by
  rw [nouvelleVersion, WritesFair, Program.WritesFit]
  split
  · trivial
  · rw [Program.WritesFit]
    cases found : library.publishedVersion course with
    | none => trivial
    | some source =>
        refine fair_recopierContenu fair fun screens questions single => ?_
        exact ⟨⟨fair.lenient source (Library.mem_of_publishedVersion found), single⟩, trivial⟩

theorem fair_dupliquer {course : Nat} {owner : Option Nat} {titre : Option String}
    (fair : Fair library) : WritesFair (dupliquer slugify course owner titre) library := by
  rw [dupliquer, WritesFair, Program.WritesFit]
  cases library.courses.find? course with
  | none => trivial
  | some cours =>
      cases found : library.publishedVersion course <|> library.draftVersion course with
      | none => trivial
      | some source =>
          have member : source ∈ library.versions := by
            cases published : library.publishedVersion course with
            | none =>
                rw [published] at found
                exact mem_of_draftVersion found
            | some row =>
                rw [published] at found
                obtain rfl := Option.some.inj found
                exact Library.mem_of_publishedVersion published
          dsimp only [Program.WritesFit]
          refine fair_recopierContenu fair fun screens questions single => ?_
          exact ⟨⟨fair.lenient source member, single⟩, trivial⟩

/-- The operation is a load of the catalogue. -/
def StudioRequest.isLoad : StudioRequest → Bool
  | .unCours _ _ _ => true
  | _ => false

theorem fair_studioProgram {request : StudioRequest} (fair : Fair library)
    (written : request.isLoad = false) :
    WritesFair (studioProgram slugify request) library := by
  cases request with
  | creerCours title summary owner =>
      refine ⟨⟨⟨by decide, by decide⟩, ?_⟩, trivial⟩
      rintro entry ⟨⟩
  | dupliquer course owner titre => exact fair_dupliquer fair
  | nouvelleVersion course changeNote => exact fair_nouvelleVersion fair
  | ecrireEcran version screen title content estimatedSeconds =>
      refine WritesFair.versionModifiable fun row => ?_
      cases screen with
      | none => exact ⟨trivial, trivial⟩
      | some key =>
          simp only [WritesFair, Program.WritesFit]
          split
          · trivial
          · exact ⟨trivial, trivial⟩
  | reordonnerEcrans version ordre =>
      refine WritesFair.versionModifiable fun row => ?_
      simp only [WritesFair, Program.WritesFit]
      split
      · exact ⟨trivial, trivial⟩
      · trivial
  | supprimerEcran version screen =>
      refine WritesFair.versionModifiable fun row => ?_
      simp only [WritesFair, Program.WritesFit]
      split
      · trivial
      · simp only [Program.WritesFit]
        split
        · trivial
        · exact ⟨trivial, trivial⟩
  | ecrireQuestion version question text kind explanation screen choix =>
      exact fair_ecrireQuestion
  | supprimerQuestion version question =>
      refine WritesFair.versionModifiable fun row => ?_
      simp only [WritesFair, Program.WritesFit]
      split
      · trivial
      · exact ⟨trivial, trivial⟩
  | publier version now =>
      simp only [WritesFair, studioProgram, publier, Program.WritesFit]
      split
      · trivial
      · split
        · trivial
        · simp only [Program.WritesFit]
          split
          · exact ⟨trivial, trivial⟩
          · trivial
  | unCours data reset now => cases written

end Operations

/-! ## Sequences of operations -/

def Library.empty : Library := ⟨.empty, .empty, .empty, .empty, .empty⟩

theorem fair_empty : Fair Library.empty where
  single := by rintro question ⟨⟩
  answered := by rintro choice ⟨⟩
  lenient := by rintro version ⟨⟩

/-- The library that a sequence of operations leaves. -/
def Library.written (slugify : String → String) (requests : List StudioRequest) : Library :=
  after (serve Library.applyStudio (studioProgram slugify)) .empty requests

theorem fair_written {slugify : String → String} {requests : List StudioRequest}
    (studio : ∀ request ∈ requests, request.isLoad = false) :
    Fair (Library.written slugify requests) := by
  have fair := fair_empty
  rw [Library.written]
  generalize Library.empty = library at fair
  induction requests generalizing library with
  | nil => exact fair
  | cons request rest ih =>
      rw [List.forall_mem_cons] at studio
      refine ih studio.2 _ ?_
      exact Program.holds_alone (fun _ _ fair single => fair.applyStudio single)
        (fair_studioProgram fair studio.1) fair

/-! ## The answers that win -/

section Answers

variable {library : Library}

/-- The right choices of each question, under the text of its key. -/
def Library.rightAnswers (library : Library) : Answered := fun text =>
  (library.questions.rows.filter fun question => toString question.id = text).flatMap
    fun question => (library.correctChoices question.id).map fun choice => toString choice.id

theorem rightAnswers_eq {question : Question} (member : question ∈ library.questions) :
    library.rightAnswers (toString question.id) =
      (library.correctChoices question.id).map fun choice => toString choice.id := by
  have only : (library.questions.rows.filter fun row => toString row.id = toString question.id) =
      [question] := by
    have nodup := library.questions.nodup_rows.filter
      fun row => toString row.id = toString question.id
    have mem_iff (row : Question) :
        row ∈ (library.questions.rows.filter fun row => toString row.id = toString question.id) ↔
          row ∈ [question] := by
      rw [List.mem_filter, List.mem_singleton]
      constructor
      · rintro ⟨inside, same⟩
        exact Table.ident_injective inside member (Nat.repr_inj.mp (of_decide_eq_true same))
      · rintro rfl
        exact ⟨member, decide_eq_true rfl⟩
    have same := (List.perm_ext_iff_of_nodup nodup (List.nodup_singleton question)).mpr mem_iff
    exact List.perm_singleton.mp same
  rw [Library.rightAnswers, only, List.flatMap_singleton]

/-- The right answers are right, where there are any. -/
theorem corriger_rightAnswers {question : Question} (fair : Fair library)
    (member : question ∈ library.questions) (some : library.correctChoices question.id ≠ []) :
    corriger question (library.rightAnswers (toString question.id)).toFinset
      ((library.correctChoices question.id).map fun choice => toString choice.id).toFinset =
        true := by
  rw [rightAnswers_eq member, corriger, if_neg]
  · refine decide_eq_true ⟨?_, rfl⟩
    obtain ⟨choice, rest, same⟩ := List.exists_cons_of_ne_nil some
    rw [same, List.map_cons, List.toFinset_cons]
    exact Finset.insert_nonempty _ _
  · rintro ⟨single, several⟩
    refine several ?_
    have most := fair.single question member single
    have least := List.length_pos_of_ne_nil some
    rw [← length_correctChoices] at most
    obtain ⟨choice, only⟩ := List.length_eq_one_iff.mp (le_antisymm most least)
    rw [only]
    rfl

/-- A learner who has not passed, and who has attempts left. -/
structure MaySubmit (enrollment : Enrollment) : Prop where
  failed : ∀ attempt ∈ enrollment.attempts, attempt.passed = false
  left : enrollment.attempts.rows.length < enrollment.attemptsAllowed
  numbered : ∀ attempt ∈ enrollment.attempts,
    attempt.number ≤ enrollment.attempts.rows.length

theorem maySubmit_of_first {enrollment : Enrollment} (allowed : 0 < enrollment.version.maxAttempts)
    (first : enrollment.attempts.rows = []) : MaySubmit enrollment := by
  refine ⟨fun attempt member => ?_, ?_, fun attempt member => ?_⟩
  · rw [Table.mem_def, first] at member
    cases member
  · rw [first]
    exact allowed.trans_le (Nat.le_add_right _ _)
  · rw [Table.mem_def, first] at member
    cases member

theorem length_screensOf_le {version : Nat} {seen : List Nat}
    (all : ∀ screen ∈ library.screensOf version, screen.id ∈ seen) :
    (library.screensOf version).length ≤ seen.length := by
  have sorted := List.perm_insertionSort (fun first second : Screen => first.order ≤ second.order)
    (library.screens.rows.filter fun row => row.version = version)
  have increasing := List.pairwise_map.mpr
    (library.screens.increasing.filter fun row => row.version = version)
  have nodup : ((library.screensOf version).map Screen.id).Nodup :=
    (sorted.map Screen.id).nodup_iff.mpr (increasing.imp ne_of_lt)
  have inside : (library.screensOf version).map Screen.id ⊆ seen := by
    intro key listed
    obtain ⟨screen, member, rfl⟩ := List.mem_map.mp listed
    exact all screen member
  have bound := (List.subperm_of_subset nodup inside).length_le
  rwa [List.length_map] at bound

/-- What a publication has checked. -/
structure Publishable (library : Library) (version : Nat) : Prop where
  screens : library.screensOf version ≠ []
  questions : library.questionsOf version ≠ []
  right : ∀ question ∈ library.questionsOf version, library.correctChoices question.id ≠ []

theorem publishable_of_controls {version : Nat}
    (passes : library.controlesAvantPublication version = []) : Publishable library version := by
  simp only [Library.controlesAvantPublication, List.append_eq_nil_iff,
    List.flatMap_eq_nil_iff] at passes
  obtain ⟨⟨screens, questions⟩, each⟩ := passes
  refine ⟨fun none => ?_, fun none => ?_, fun question asked none => ?_⟩
  · rw [none] at screens
    cases screens
  · rw [none] at questions
    cases questions
  · have checked := (each question asked).1
    rw [none] at checked
    cases checked

theorem quizGuard_rightAnswers {enrollment : Enrollment}
    (publishable : Publishable library enrollment.version.id)
    (seen : ∀ screen ∈ library.screensOf enrollment.version.id, screen.id ∈ enrollment.seen)
    (may : MaySubmit enrollment) :
    quizGuard library enrollment library.rightAnswers =
      .ok (library.questionsOf enrollment.version.id) := by
  have notPassed : (etatDeSession library enrollment).passed = false := by
    refine List.any_eq_false.mpr fun attempt member => ?_
    rw [may.failed attempt member]
    exact Bool.false_ne_true
  have unlocked : (etatDeSession library enrollment).quizUnlocked = true := by
    refine Bool.and_eq_true_iff.mpr ⟨?_, decide_eq_true (length_screensOf_le seen)⟩
    rw [List.isEmpty_eq_false_iff.mpr publishable.screens]
    rfl
  have answered : (library.questionsOf enrollment.version.id).filter (fun question =>
      (library.rightAnswers (toString question.id)).isEmpty) = [] := by
    refine List.filter_eq_nil_iff.mpr fun question asked => ?_
    have member : question ∈ library.questions :=
      (List.mem_filter.mp ((List.mem_insertionSort _).mp asked)).1
    rw [rightAnswers_eq member, List.isEmpty_map, Bool.not_eq_true]
    exact List.isEmpty_eq_false_iff.mpr (publishable.right question asked)
  have room : ¬(etatDeSession library enrollment).attemptsAllowed ≤
      (etatDeSession library enrollment).attemptsUsed := Nat.not_le.mpr may.left
  simp only [quizGuard]
  rw [if_neg, notPassed, if_neg Bool.false_ne_true, unlocked, if_neg, if_neg room, answered]
  · rfl
  · simp
  · rw [List.isEmpty_eq_false_iff.mpr publishable.questions]
    exact Bool.false_ne_true

theorem scoreOf_rightAnswers {version : Nat} (fair : Fair library)
    (publishable : Publishable library version) :
    scoreOf (corrections library (library.questionsOf version) library.rightAnswers) = 100 := by
  have all : (corrections library (library.questionsOf version) library.rightAnswers).countP
      Correction.correct =
        (corrections library (library.questionsOf version) library.rightAnswers).length := by
    rw [List.countP_eq_length]
    intro correction listed
    obtain ⟨question, asked, rfl⟩ := List.mem_map.mp listed
    have member : question ∈ library.questions :=
      (List.mem_filter.mp ((List.mem_insertionSort _).mp asked)).1
    exact corriger_rightAnswers fair member (publishable.right question asked)
  have some : 0 <
      (corrections library (library.questionsOf version) library.rightAnswers).length := by
    rw [corrections, List.length_map]
    exact List.length_pos_of_ne_nil publishable.questions
  rw [scoreOf, all, halfEven, Nat.mul_div_cancel _ some, Nat.mul_mod_left]
  exact if_pos (Or.inl some)

/-- A learner who gives the right answers gets the full score and passes. -/
theorem rightAnswers_win {enrollment : Enrollment} (fair : Fair library)
    (publishable : Publishable library enrollment.version.id)
    (lenient : enrollment.version.passThreshold ≤ 100)
    (seen : ∀ screen ∈ library.screensOf enrollment.version.id, screen.id ∈ enrollment.seen)
    (may : MaySubmit enrollment) (serial : String) (now : Nat) :
    ∃ submitted result, soumettreLeQuiz library enrollment library.rightAnswers serial now =
      .ok (submitted, result) ∧ result.score = 100 ∧ result.passed = true := by
  have score := scoreOf_rightAnswers fair publishable
  have free : ¬(enrollment.attempts.rows.any fun row =>
      row.number = enrollment.attempts.rows.length + 1) = true := by
    intro found
    obtain ⟨attempt, inside, same⟩ := List.any_eq_true.mp found
    have bound := may.numbered attempt inside
    have number := of_decide_eq_true same
    omega
  rw [soumettreLeQuiz, quizGuard_rightAnswers publishable seen may]
  simp only [bind, Except.bind, createAttempt, if_neg free]
  refine ⟨_, _, rfl, score, ?_⟩
  dsimp only
  rw [score]
  exact decide_eq_true lenient

end Answers

/-! ## Publications -/

theorem written_append (slugify : String → String) (requests : List StudioRequest)
    (request : StudioRequest) :
    Library.written slugify (requests ++ [request]) =
      (studioProgram slugify request).alone Library.applyStudio
        (Library.written slugify requests) :=
  after_append _ requests [request]

/-- A publication that succeeds has found a version that may be published. -/
theorem publishable_of_published {library : Library} {version now : Nat} {row : CourseVersion}
    (draft : ∀ row ∈ library.versions, row.id = version → row.isPublished = false)
    (member : row ∈ ((publier version now).alone Library.applyStudio library).versions)
    (own : row.id = version) (published : row.isPublished = true) :
    (publier version now).alone Library.applyStudio library = library.publish version now ∧
      Publishable library version := by
  have other : (publier version now).alone Library.applyStudio library ≠ library := by
    intro same
    rw [same] at member
    exact Bool.false_ne_true ((draft row member own).symm.trans published)
  simp only [publier, Program.alone] at other ⊢
  cases found : library.versions.find? version with
  | none =>
      rw [found] at other
      exact absurd rfl other
  | some first =>
      have key : first.id = version := (Table.find?_eq_some_iff.mp found).2
      simp only [found] at other ⊢
      by_cases early : first.isPublished = true
      · rw [if_pos early] at other
        exact absurd rfl other
      · rw [if_neg early] at other ⊢
        simp only [Program.alone] at other ⊢
        by_cases passes : (library.controlesAvantPublication first.id).isEmpty = true
        · rw [if_pos passes]
          rw [key] at passes ⊢
          exact ⟨rfl, publishable_of_controls (List.isEmpty_iff.mp passes)⟩
        · rw [if_neg passes] at other
          exact absurd rfl other

/-- After any sequence of operations of the studio that ends with a publication, there
are answers that win: given by a learner who has seen all the screens, for the first time
or with attempts left, they are accepted, get the full score and pass. -/
theorem published_quiz_winnable (slugify : String → String) (requests : List StudioRequest)
    (studio : ∀ request ∈ requests, request.isLoad = false) (version now : Nat)
    (draft : ∀ row ∈ (Library.written slugify requests).versions, row.id = version →
      row.isPublished = false)
    (row : CourseVersion)
    (member : row ∈ (Library.written slugify (requests ++ [.publier version now])).versions)
    (own : row.id = version) (published : row.isPublished = true) :
    ∃ answered : Answered, ∀ enrollment : Enrollment, enrollment.version = row →
      (∀ screen ∈ (Library.written slugify (requests ++ [.publier version now])).screensOf row.id,
        screen.id ∈ enrollment.seen) →
      enrollment.attempts.rows = [] ∨ MaySubmit enrollment →
      ∀ serial instant, ∃ submitted result,
        soumettreLeQuiz (Library.written slugify (requests ++ [.publier version now])) enrollment
          answered serial instant = .ok (submitted, result) ∧
        result.score = 100 ∧ result.passed = true := by
  have fair : Fair (Library.written slugify (requests ++ [.publier version now])) := by
    refine fair_written fun request listed => ?_
    rcases List.mem_append.mp listed with early | last
    · exact studio request early
    · rw [List.mem_singleton.mp last]
      rfl
  have lenient := fair.lenient row member
  rw [written_append] at member
  obtain ⟨same, checked⟩ := publishable_of_published draft member own published
  have publishable : Publishable (Library.written slugify (requests ++ [.publier version now]))
      row.id := by
    rw [written_append]
    change Publishable ((publier version now).alone _ _) row.id
    rw [same, own]
    exact ⟨checked.screens, checked.questions, checked.right⟩
  refine ⟨(Library.written slugify (requests ++ [.publier version now])).rightAnswers, ?_⟩
  intro enrollment follows seen may serial instant
  subst follows
  have may := may.elim (maySubmit_of_first lenient.2) id
  exact rightAnswers_win fair publishable lenient.1 seen may serial instant

/-! A course that is written, copied to a new version and published again. -/

section Written

/-- A course with a screen and a question of each kind, published; the copy is rewritten. -/
def writtenCourse : List StudioRequest :=
  [.creerCours "Mots de passe" "Un par service." none,
    .ecrireEcran 0 none "Un mot de passe" [] 60,
    .ecrireQuestion 0 none "Faut-il partager un mot de passe ?" .single "Jamais." 0
      [("Oui", false), ("Non", true)],
    .ecrireQuestion 0 none "Où le garder ?" .multiple "Dans un coffre." 0
      [("Un coffre", true), ("Sa mémoire", true), ("Un papier", false)],
    .publier 0 60,
    .nouvelleVersion 0 "Corrections",
    .ecrireQuestion 1 (some 2) "Peut-on partager un mot de passe ?" .single "Jamais." 1
      [("Jamais", true), ("Parfois", false)]]

theorem published_quiz_winnable_written :
    ∃ answered : Answered, ∀ enrollment : Enrollment,
      enrollment.version = ⟨1, 0, 2, some 120, 70, 3, "Corrections"⟩ →
      (∀ screen ∈ (Library.written id (writtenCourse ++ [.publier 1 120])).screensOf 1,
        screen.id ∈ enrollment.seen) →
      enrollment.attempts.rows = [] ∨ MaySubmit enrollment →
      ∀ serial instant, ∃ submitted result,
        soumettreLeQuiz (Library.written id (writtenCourse ++ [.publier 1 120])) enrollment
          answered serial instant = .ok (submitted, result) ∧
        result.score = 100 ∧ result.passed = true :=
  published_quiz_winnable id writtenCourse (by decide) 1 120 (by decide +kernel)
    ⟨1, 0, 2, some 120, 70, 3, "Corrections"⟩ (by decide +kernel) rfl rfl

end Written

end RssiService.Training
