import Mathlib.Data.List.MinMax
import RssiService.Assessments.Catalogue

/-!
# Assessments

An assessment asks the measures of its scope, which is read from the catalogue
each time: the whole referential, or the composition chosen at the start.
-/

namespace RssiService.Assessments

open Foundation Python

/-! ## The scope -/

def Database.subsetMeasureIds (db : Database) (subset : Nat) : List Nat :=
  ((db.items.rows.filter fun row => row.subset = subset).mergeSort fun first second =>
    decide (first.order ≤ second.order)).map SubsetMeasure.measure

def Database.referentialMeasures (db : Database) (referential : Nat) : List Measure :=
  db.measures.rows.filter fun row => row.referential = referential

/-- The measures that an assessment is about. -/
def Database.assessmentMeasures (db : Database) (assessment : Assessment) : List Measure :=
  let measures := db.referentialMeasures assessment.referential
  match assessment.subset with
  | none => measures
  | some subset =>
      let ranks := db.subsetMeasureIds subset
      (measures.filter fun row => row.id ∈ ranks).mergeSort fun first second =>
        decide (ranks.idxOf first.id ≤ ranks.idxOf second.id)

/-- The measure is in the composition, when there is one. -/
def Database.Asks (db : Database) (subset : Option Nat) (measure : Nat) : Prop :=
  ∀ key, subset = some key → ∃ item ∈ db.items, item.subset = key ∧ item.measure = measure

theorem mem_subsetMeasureIds {db : Database} {subset measure : Nat} :
    measure ∈ db.subsetMeasureIds subset ↔
      ∃ item ∈ db.items, item.subset = subset ∧ item.measure = measure := by
  rw [Database.subsetMeasureIds, List.mem_map]
  refine exists_congr fun item => ?_
  rw [List.mem_mergeSort, List.mem_filter, decide_eq_true_eq, and_assoc]
  exact Iff.rfl

theorem mem_assessmentMeasures {db : Database} {assessment : Assessment} {measure : Measure} :
    measure ∈ db.assessmentMeasures assessment ↔
      measure ∈ db.measures ∧ measure.referential = assessment.referential ∧
        db.Asks assessment.subset measure.id := by
  rw [Database.assessmentMeasures]
  cases chosen : assessment.subset with
  | none =>
      have free : db.Asks none measure.id := by
        rintro key ⟨⟩
      simp [Database.referentialMeasures, Table.mem_def, free]
  | some subset =>
      have asked : db.Asks (some subset) measure.id ↔ measure.id ∈ db.subsetMeasureIds subset := by
        rw [mem_subsetMeasureIds]
        exact ⟨fun asks => asks subset rfl, fun listed key same => Option.some.inj same ▸ listed⟩
      rw [asked, List.mem_mergeSort, List.mem_filter, Database.referentialMeasures, List.mem_filter,
        decide_eq_true_eq, decide_eq_true_eq, and_assoc]
      exact Iff.rfl

theorem nodup_assessmentMeasures (db : Database) (assessment : Assessment) :
    (db.assessmentMeasures assessment).Nodup := by
  have whole : (db.referentialMeasures assessment.referential).Nodup :=
    db.measures.nodup_rows.filter _
  rw [Database.assessmentMeasures]
  split
  · exact whole
  · exact (List.mergeSort_perm _ _).nodup_iff.mpr (whole.filter _)

/-! ## Life of an assessment -/

def currentAssessment? (db : Database) (tenant : Nat) (referential : Referential) :
    Option Assessment :=
  (db.assessments.rows.filter fun row =>
      row.tenant = tenant && row.status = .inProgress &&
        row.referential = referential.id).argmax Assessment.startedAt

/-- Start an assessment, or resume the one in progress on the referential. -/
def startOrResumeAssessment (db : Database) (now tenant : Nat) (user : Option Nat)
    (referential : { row : Referential // row ∈ db.referentials })
    (subset : Option { row : MeasureSubset // row ∈ db.subsets }) :
    Except AssessmentsError (Database × Assessment) :=
  let questionnaire := subset.map Subtype.val
  if ¬ db.isGranted tenant referential.val then
    .error (.referentialNotAssigned
      ("Le référentiel « " ++ referential.val.sheet.name ++ " » ne fait pas partie de ceux qui " ++
        "vous sont attribués. Vous pouvez en faire la demande depuis votre espace."))
  else if questionnaire.any fun row => row.referential ≠ referential.val.id then
    .error (.subset "Ce questionnaire n'appartient pas au référentiel choisi.")
  else if questionnaire.any fun row => row.ownerTenant ≠ none && row.ownerTenant ≠ some tenant then
    .error (.subset "Ce questionnaire ne vous est pas accessible.")
  else
    match currentAssessment? db tenant referential.val with
    | some current => .ok (db, current)
    | none =>
        let build := fun key =>
          { id := key
            tenant
            referential := referential.val.id
            subset := questionnaire.map MeasureSubset.id
            status := .inProgress
            startedBy := user
            startedAt := now
            completedAt := none
            scoreGlobal := none : Assessment }
        .ok
          ({ db with
              assessments := db.assessments.create build (fun _ => rfl)
              composed := by
                intro assessment inside key chosen
                rcases Table.mem_create.mp inside with old | rfl
                · exact db.composed assessment old key chosen
                · obtain ⟨row, given, rfl⟩ := Option.map_eq_some_iff.mp chosen
                  obtain ⟨composition, _, rfl⟩ := Option.map_eq_some_iff.mp given
                  exact ⟨composition.val, composition.property, rfl⟩
              assessed := by
                intro assessment inside
                rcases Table.mem_create.mp inside with old | rfl
                · exact db.assessed assessment old
                · exact ⟨referential.val, referential.property, rfl⟩ },
            build db.assessments.next)

/-- Record an answer, or replace the one given before. -/
def submitAnswer (db : Database) (assessment : Assessment) (measure : Measure) (value : Value)
    (note : String) : Except AssessmentsError Database :=
  if assessment.status = .completed then
    .error (.alreadyCompleted "Cette évaluation est déjà terminée.")
  else if measure.referential ≠ assessment.referential then
    .error (.measureNotInReferential
      "Cette mesure n'appartient pas au référentiel de cette évaluation.")
  else if assessment.subset.any fun subset => measure.id ∉ db.subsetMeasureIds subset then
    .error (.measureNotInScope
      "Cette mesure ne fait pas partie du questionnaire de cette évaluation.")
  else
    .ok { db with
      answers := db.answers.updateOrCreate
        (fun row => row.question = (assessment.id, measure.id))
        (fun row => { row with tenant := assessment.tenant, value, note })
        (fun _ => rfl)
        (fun key =>
          { id := key
            tenant := assessment.tenant
            assessment := assessment.id
            measure := measure.id
            value
            note })
        (fun _ => rfl)
      answeredOnce := Table.unique_updateOrCreate (fun _ => decide_eq_true_iff) (fun _ => rfl)
        (fun _ => rfl) db.answeredOnce }

/-- The answers of an assessment. -/
def Database.listAnswers (db : Database) (assessment : Assessment) : List Answer :=
  db.answers.rows.filter fun row =>
    row.tenant = assessment.tenant && row.assessment = assessment.id

def Database.isAnswered (db : Database) (assessment : Assessment) (measure : Measure) : Bool :=
  (db.listAnswers assessment).any fun row => row.measure = measure.id

/-! ## Progress -/

structure DomainProgress where
  domainCode : String
  domainName : String
  answered : Nat
  total : Nat
  deriving DecidableEq, Repr

structure Progress where
  answered : Nat
  total : Nat
  byDomain : List DomainProgress
  deriving DecidableEq, Repr

/-- The domains of a referential in order, with the measures of each. -/
def Database.byDomain (db : Database) (referential : Nat) (measures : List Measure) :
    List (Domain × List Measure) :=
  let domains := (db.domains.rows.filter fun row => row.referential = referential).mergeSort
    fun first second => decide (first.order ≤ second.order)
  (domains.map fun domain => (domain, measures.filter fun row => row.domain = domain.id)).filter
    fun pair => pair.2 ≠ []

def getProgress (db : Database) (assessment : Assessment) : Progress :=
  let measures := db.assessmentMeasures assessment
  { answered := measures.countP (db.isAnswered assessment)
    total := measures.length
    byDomain := (db.byDomain assessment.referential measures).map fun (domain, measures) =>
      { domainCode := domain.code
        domainName := domain.name
        answered := measures.countP (db.isAnswered assessment)
        total := measures.length } }

/-! ## Scores -/

/-- The credit of an answer; a measure that does not apply has none. -/
def Value.score? : Value → Option Float
  | .yes => some 1.0
  | .part => some 0.5
  | .no => some 0.0
  | .notApplicable => none

/-- One measure of a weighted score, when it has a value that counts. -/
def weigh (values : Nat → Option Value) (sums : Float × Float) (measure : Measure) :
    Float × Float :=
  match (values measure.id).bind Value.score? with
  | none => sums
  | some score => (sums.1 + score * measure.sheet.weight, sums.2 + measure.sheet.weight)

/-- The weighted score of measures, out of a hundred. -/
def scoreFromValues (values : Nat → Option Value) (measures : List Measure) : Option Float :=
  let (weighted, total) := measures.foldl (weigh values) (0.0, 0.0)
  if total == 0.0 then none else some (roundTenths (100.0 * weighted / total))

def Database.answerValue? (db : Database) (assessment : Assessment) (measure : Nat) :
    Option Value :=
  ((db.listAnswers assessment).find? fun row => row.measure = measure).map Answer.value

/-! ## Completion -/

def Database.closeAssessment (db : Database) (key now : Nat) (scoreGlobal : Option Float) :
    Database :=
  let close := fun row : Assessment =>
    { row with status := .completed, completedAt := some now, scoreGlobal }
  { db with
    assessments := db.assessments.modify key close (fun _ => rfl)
    composed := by
      intro assessment inside subset chosen
      obtain ⟨row, old, rfl⟩ := Table.mem_modify.mp inside
      refine db.composed row old subset ?_
      split at chosen <;> exact chosen
    assessed := by
      intro assessment inside
      obtain ⟨row, old, rfl⟩ := Table.mem_modify.mp inside
      obtain ⟨referential, known, same⟩ := db.assessed row old
      refine ⟨referential, known, ?_⟩
      split <;> exact same }

/-- Close an assessment, with the score of its answers.  The answers are counted
against the measures of the scope. -/
def completeAssessment (db : Database) (now : Nat) (assessment : Assessment) :
    Except AssessmentsError Database :=
  if assessment.status = .completed then
    .error (.alreadyCompleted "Cette évaluation est déjà terminée.")
  else
    let measures := db.assessmentMeasures assessment
    let answered := (db.listAnswers assessment).length
    if answered < measures.length then .error (.incomplete answered measures.length)
    else
      .ok (db.closeAssessment assessment.id now
        (scoreFromValues (db.answerValue? assessment) measures))

/-! ## A questionnaire with one of two measures -/

section OneOfTwo

def twoMeasures : ParsedReferential where
  slug := "hygiene"
  sheet := ⟨"Hygiène", "1", "", "", "open", "", ""⟩
  domains :=
    [{ code := "postes"
       name := "Postes"
       order := 1
       description := ""
       measures :=
        ["1", "2"].map fun code =>
          ⟨code, ⟨none, "Intitulé", "Énoncé", "", 1.0, "low", "low", true⟩⟩ }]

def hygiene : Referential := ⟨0, "hygiene", none, true, twoMeasures.sheet⟩

def essentials : MeasureSubset := ⟨0, 0, "essentielles", "Essentielles", "", none, true, none⟩

def composedOf (db : Database) (code : String) : Database :=
  (createSubset db hygiene "essentielles" "Essentielles" [code] "" none none).1

/-- The first measure is asked, to a client that has the referential. -/
def askingFirst : Database :=
  let imported := (importReferential Database.empty twoMeasures true none).toOption
  composedOf
    ((imported.bind fun (db, _) => (assignReferential db 0 hygiene none "").toOption).getD
      Database.empty) "1"

def firstAssessment : Assessment := ⟨0, 0, 0, some 0, .inProgress, none, 0, none, none⟩

def startedOnFirst : Database :=
  match startOrResumeAssessment askingFirst 0 0 none ⟨hygiene, by decide +kernel⟩
      (some ⟨essentials, by decide +kernel⟩) with
  | .ok (db, _) => db
  | .error _ => Database.empty

def answered (db : Database) (assessment : Assessment) (value : Value) : Database :=
  match db.measureOf? 0 "1" with
  | none => db
  | some measure => ((submitAnswer db assessment measure value "").toOption).getD db

end OneOfTwo

end RssiService.Assessments
