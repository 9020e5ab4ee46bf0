import RssiService.Assessments.Diagnostics
import RssiService.Training.Evidence

/-!
# Evidence in the diagnostic

A suggestion that is confirmed is reported in the assessment in progress: the measure is
looked up there by its code, and its answer becomes yes with the figures as its note.
-/

namespace RssiService.Assessments

open Foundation

/-- The assessment in progress that was started last, on one referential or on any. -/
def getCurrentAssessment (db : Database) (tenant : Nat) (referential : Option Nat) :
    Option Assessment :=
  (db.assessments.rows.filter fun row =>
      row.tenant = tenant && row.status = .inProgress &&
        referential.all fun key => row.referential = key).argmax Assessment.startedAt

theorem getCurrentAssessment_some {db : Database} {tenant : Nat} {referential : Option Nat}
    {evaluation : Assessment}
    (current : getCurrentAssessment db tenant referential = some evaluation) :
    evaluation ∈ db.assessments ∧ evaluation.tenant = tenant ∧ evaluation.status = .inProgress := by
  have listed := List.mem_filter.mp (List.argmax_mem current)
  simp only [Bool.and_eq_true, decide_eq_true_eq] at listed
  exact ⟨listed.1, listed.2.1⟩

/-- A measure of the scope of an assessment in progress can be answered. -/
theorem submitAnswer_accepts {db : Database} {assessment : Assessment} {measure : Measure}
    (inProgress : assessment.status = .inProgress)
    (asked : measure ∈ db.assessmentMeasures assessment) (value : Value) (note : String) :
    ∃ after, submitAnswer db assessment measure value note = .ok after := by
  obtain ⟨_, same, listed⟩ := mem_assessmentMeasures.mp asked
  have inScope : ¬(assessment.subset.any fun subset =>
      measure.id ∉ db.subsetMeasureIds subset) = true := by
    rw [Option.any_eq_true]
    rintro ⟨subset, chosen, absent⟩
    exact of_decide_eq_true absent (mem_subsetMeasureIds.mpr (listed subset chosen))
  rw [submitAnswer, if_neg (by rw [inProgress]; decide), if_neg (not_not.mpr same),
    if_neg inScope]
  exact ⟨_, rfl⟩

/-- An answer that appears or disappears is one of the measure that is answered. -/
theorem submitAnswer_writes {db after : Database} {assessment : Assessment} {measure : Measure}
    {value : Value} {note : String} {answer : Answer}
    (answered : submitAnswer db assessment measure value note = .ok after)
    (written : ¬(answer ∈ after.answers ↔ answer ∈ db.answers)) :
    answer.question = (assessment.id, measure.id) := by
  by_contra other
  rw [submitAnswer] at answered
  split at answered
  · cases answered
  split at answered
  · cases answered
  split at answered
  · cases answered
  cases answered
  have selects : ∀ row : Answer, decide (row.question = (assessment.id, measure.id)) = true ↔
      row.question = (assessment.id, measure.id) := fun _ => decide_eq_true_iff
  refine written (Table.mem_updateOrCreate_of_ne selects ?_ ?_ other)
  · exact fun _ => rfl
  · exact fun _ => rfl

/-- The referential has this slug. -/
def Database.HasSlug (db : Database) (referential : Nat) (slug : String) : Prop :=
  ∃ row ∈ db.referentials, row.id = referential ∧ row.slug = slug

end RssiService.Assessments

namespace RssiService.Training

open Foundation Python Assessments

/-- The suggestion cannot be reported, or the diagnostic refuses the answer. -/
inductive ConfirmFailure where
  | preuve (message : String)
  | diagnostic (error : AssessmentsError)
  deriving DecidableEq, Repr

/-- Confirm a suggestion: answer the measure and settle the suggestion. -/
def confirmerDansLeDiagnostic (runtime : TrainingRuntime) (db : Database) (courseTitle : String)
    (suggestions : Table MeasureSuggestion) (suggestion : MeasureSuggestion) (actor : Option Nat)
    (now : Nat) : Except ConfirmFailure (Database × Table MeasureSuggestion) :=
  if suggestion.status ≠ .pending then
    .error (.preuve "Cette proposition a déjà été traitée.")
  else
    match getCurrentAssessment db suggestion.tenant none with
    | none =>
        .error (.preuve ("Aucun diagnostic n'est en cours. Ouvrez-en un, puis revenez confirmer : " ++
          "la preuve y sera reportée avec ses chiffres."))
    | some evaluation =>
        match (db.assessmentMeasures evaluation).find? fun row => row.code = mesure with
        | none =>
            .error (.preuve
              "La mesure de sensibilisation ne fait pas partie du questionnaire en cours.")
        | some row =>
            match submitAnswer db evaluation row .yes (texteDePreuve runtime courseTitle suggestion) with
            | .error failure => .error (.diagnostic failure)
            | .ok after => .ok (after, trancher suggestions suggestion .accepted actor now)

section Confirmations

variable {runtime : TrainingRuntime} {db after : Database} {courseTitle : String}
  {suggestions settled : Table MeasureSuggestion} {suggestion : MeasureSuggestion}
  {actor : Option Nat} {now : Nat}

/-- What a confirmation does: it answers the first measure of the code in the assessment
in progress. -/
theorem confirmerDansLeDiagnostic_ok
    (confirmed : confirmerDansLeDiagnostic runtime db courseTitle suggestions suggestion actor now =
      .ok (after, settled)) :
    suggestion.status = .pending ∧ ∃ evaluation measure,
      getCurrentAssessment db suggestion.tenant none = some evaluation ∧
        measure ∈ db.assessmentMeasures evaluation ∧ measure.code = mesure ∧
          submitAnswer db evaluation measure .yes
              (texteDePreuve runtime courseTitle suggestion) = .ok after ∧
            settled = trancher suggestions suggestion .accepted actor now := by
  rw [confirmerDansLeDiagnostic] at confirmed
  split at confirmed
  · cases confirmed
  rename_i pending
  split at confirmed
  · cases confirmed
  rename_i evaluation current
  split at confirmed
  · cases confirmed
  rename_i measure found
  split at confirmed
  · cases confirmed
  rename_i written answered
  cases confirmed
  have code : measure.code = mesure := by
    simpa using List.find?_some found
  exact ⟨not_not.mp pending, evaluation, measure, current, List.mem_of_find?_eq_some found,
    code, answered, rfl⟩

/-- A measure of the code in the scope is enough for the confirmation to succeed. -/
theorem confirmerDansLeDiagnostic_of_measure (runtime : TrainingRuntime) (courseTitle : String)
    (suggestions : Table MeasureSuggestion) (actor : Option Nat) (now : Nat)
    (pending : suggestion.status = .pending)
    {evaluation : Assessment}
    (current : getCurrentAssessment db suggestion.tenant none = some evaluation)
    {measure : Measure} (asked : measure ∈ db.assessmentMeasures evaluation)
    (code : measure.code = mesure) :
    ∃ result, confirmerDansLeDiagnostic runtime db courseTitle suggestions suggestion actor now =
      .ok result := by
  rw [confirmerDansLeDiagnostic, if_neg (not_not.mpr pending), current]
  dsimp only
  cases found : (db.assessmentMeasures evaluation).find? fun row => row.code = mesure with
  | none => exact absurd (decide_eq_true code) (List.find?_eq_none.mp found measure asked)
  | some row =>
      obtain ⟨written, answered⟩ := submitAnswer_accepts (getCurrentAssessment_some current).2.2
        (List.mem_of_find?_eq_some found) .yes (texteDePreuve runtime courseTitle suggestion)
      dsimp only
      rw [answered]
      exact ⟨_, rfl⟩

end Confirmations

/-! ## The measure that is answered -/

/-- Only the measure that the suggestion names is answered, and an assessment on another
referential refuses. -/
structure ReportsInPlace (runtime : TrainingRuntime) (db : Database) (courseTitle : String)
    (suggestions : Table MeasureSuggestion) (suggestion : MeasureSuggestion) (actor : Option Nat)
    (now : Nat) : Prop where
  writes : ∀ after settled,
    confirmerDansLeDiagnostic runtime db courseTitle suggestions suggestion actor now =
        .ok (after, settled) →
      ∀ answer, ¬(answer ∈ after.answers ↔ answer ∈ db.answers) →
        ∃ measure ∈ db.measures, measure.id = answer.measure ∧ measure.code = mesure ∧
          db.HasSlug measure.referential suggestion.referentialSlug
  refuses : ∀ evaluation, getCurrentAssessment db suggestion.tenant none = some evaluation →
    ¬db.HasSlug evaluation.referential suggestion.referentialSlug →
      ∃ failure, confirmerDansLeDiagnostic runtime db courseTitle suggestions suggestion actor now =
        .error failure

/-- A confirmation reports in place exactly when the assessment in progress, if it is on
another referential, asks no measure of the same code. -/
theorem reportsInPlace_iff (runtime : TrainingRuntime) (db : Database) (courseTitle : String)
    (suggestions : Table MeasureSuggestion) (suggestion : MeasureSuggestion) (actor : Option Nat)
    (now : Nat) :
    ReportsInPlace runtime db courseTitle suggestions suggestion actor now ↔
      (suggestion.status = .pending →
        ∀ evaluation, getCurrentAssessment db suggestion.tenant none = some evaluation →
          ¬db.HasSlug evaluation.referential suggestion.referentialSlug →
            ∀ measure ∈ db.assessmentMeasures evaluation, measure.code ≠ mesure) := by
  constructor
  · intro inPlace pending evaluation current elsewhere measure asked code
    obtain ⟨failure, refused⟩ := inPlace.refuses evaluation current elsewhere
    obtain ⟨result, confirmed⟩ := confirmerDansLeDiagnostic_of_measure runtime
      courseTitle suggestions actor now pending current asked code
    rw [refused] at confirmed
    cases confirmed
  · intro apart
    constructor
    · intro after settled confirmed answer written
      obtain ⟨pending, evaluation, measure, current, asked, code, answered, _⟩ :=
        confirmerDansLeDiagnostic_ok confirmed
      have question := submitAnswer_writes answered written
      obtain ⟨inside, same, _⟩ := mem_assessmentMeasures.mp asked
      refine ⟨measure, inside, (congrArg Prod.snd question).symm, code, same ▸ ?_⟩
      by_contra elsewhere
      exact apart pending evaluation current elsewhere measure asked code
    · intro evaluation current elsewhere
      cases result : confirmerDansLeDiagnostic runtime db courseTitle suggestions suggestion actor
          now with
      | error failure => exact ⟨failure, rfl⟩
      | ok written =>
          obtain ⟨pending, other, measure, current', asked, code, _⟩ :=
            confirmerDansLeDiagnostic_ok result
          cases current.symm.trans current'
          exact absurd code (apart pending evaluation current elsewhere measure asked)

/-! A company whose assessment in progress is on another referential. -/

def elsewhereMeasure : Measure :=
  ⟨0, 1, 0, "2", 1, ⟨none, "Intitulé", "Énoncé", "", 1.0, "low", "low", true⟩, "", ""⟩

def elsewhereAssessment : Assessment := ⟨0, 0, 1, none, .inProgress, none, 0, none, none⟩

def elsewhere : Database where
  referentials :=
    ⟨[⟨0, referentiel, none, true, twoMeasures.sheet⟩,
        ⟨1, "hygiene", none, true, twoMeasures.sheet⟩], 2, by decide, by decide⟩
  domains := ⟨[⟨0, 1, "postes", "Postes", "", 1⟩], 1, by decide, by decide⟩
  measures :=
    ⟨[elsewhereMeasure], 1, List.pairwise_singleton _ _, by simp [ident, elsewhereMeasure]⟩
  subsets := .empty
  items := .empty
  assignments := .empty
  assessments :=
    ⟨[elsewhereAssessment], 1, List.pairwise_singleton _ _, by simp [ident, elsewhereAssessment]⟩
  answers := .empty
  listed := fun _ absent => (Table.not_mem_empty _ absent).elim
  composed := fun assessment member subset chosen => by
    rw [List.mem_singleton.mp (Table.mem_def.mp member)] at chosen
    cases chosen
  assessed := fun assessment member => by
    rw [List.mem_singleton.mp (Table.mem_def.mp member)]
    exact ⟨_, List.mem_cons_of_mem _ List.mem_cons_self, rfl⟩
  answeredOnce := Database.empty.answeredOnce

def pendingSuggestion : MeasureSuggestion :=
  ⟨0, 0, 0, referentiel, mesure, "Intitulé", 3, 3, 100, 100, 20, 20, .pending, none, none, 100⟩

/-- The second measure of the other referential is answered with the evidence. -/
theorem evidence_reported_elsewhere :
    ¬ReportsInPlace companyRuntime elsewhere "Mots de passe"
      ⟨[pendingSuggestion], 1, by decide, by decide⟩ pendingSuggestion (some 5) 200 := by
  intro inPlace
  have current : getCurrentAssessment elsewhere 0 none = some elsewhereAssessment := rfl
  have apart : ¬elsewhere.HasSlug 1 referentiel := by
    rw [Database.HasSlug]
    decide
  have asked : elsewhereMeasure ∈ elsewhere.assessmentMeasures elsewhereAssessment :=
    List.mem_singleton_self _
  obtain ⟨failure, refused⟩ := inPlace.refuses elsewhereAssessment current apart
  have pending : pendingSuggestion.status = .pending := rfl
  obtain ⟨result, confirmed⟩ := confirmerDansLeDiagnostic_of_measure companyRuntime "Mots de passe"
    ⟨[pendingSuggestion], 1, by decide, by decide⟩ (some 5) 200 pending current asked rfl
  cases refused.symm.trans confirmed

end RssiService.Training
