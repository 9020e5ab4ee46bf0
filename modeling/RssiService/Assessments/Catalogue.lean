import RssiService.Foundation.Table
import RssiService.Python.Float
import RssiService.Python.Text

/-!
# The catalogue of referentials

A referential groups measures under domains.  A composition lists some of its
measures in an order of its own.  The catalogue is edited while assessments
that use it are in progress.
-/

namespace RssiService.Assessments

open Foundation Python

/-! ## Rows -/

/-- What an import writes of a referential, its slug and owner apart. -/
structure ReferentialSheet where
  name : String
  version : String
  description : String
  publisher : String
  kind : String
  sourceUrl : String
  licenceNotice : String
  deriving DecidableEq

structure Referential where
  id : Nat
  slug : String
  ownerTenant : Option Nat
  isActive : Bool
  sheet : ReferentialSheet
  deriving DecidableEq

instance : Identified Referential := ⟨Referential.id⟩

structure Domain where
  id : Nat
  referential : Nat
  code : String
  name : String
  description : String
  order : Nat
  deriving DecidableEq, Repr

instance : Identified Domain := ⟨Domain.id⟩

/-- What an import writes of a measure, its code, domain and rank apart. -/
structure MeasureSheet where
  number : Option Int
  officialTitle : String
  plainLanguage : String
  level : String
  weight : Float
  effort : String
  impact : String
  effortImpactDisclaimer : Bool
  deriving DecidableEq

structure Measure where
  id : Nat
  referential : Nat
  domain : Nat
  code : String
  order : Nat
  sheet : MeasureSheet
  sourceUrl : String
  sourceReference : String
  deriving DecidableEq

instance : Identified Measure := ⟨Measure.id⟩

structure MeasureSubset where
  id : Nat
  referential : Nat
  slug : String
  name : String
  description : String
  ownerTenant : Option Nat
  isActive : Bool
  createdBy : Option Nat
  deriving DecidableEq, Repr

instance : Identified MeasureSubset := ⟨MeasureSubset.id⟩

/-- A measure of a composition, and its rank. -/
structure SubsetMeasure where
  id : Nat
  subset : Nat
  measure : Nat
  order : Nat
  deriving DecidableEq, Repr

instance : Identified SubsetMeasure := ⟨SubsetMeasure.id⟩

structure ReferentialAssignment where
  id : Nat
  tenant : Nat
  referential : Nat
  grantedBy : Option Nat
  note : String
  revokedAt : Option Nat
  revokedBy : Option Nat
  deriving DecidableEq, Repr

instance : Identified ReferentialAssignment := ⟨ReferentialAssignment.id⟩

inductive Status where
  | inProgress
  | completed
  deriving DecidableEq, Repr

/-- Without composition the assessment is about the whole referential. -/
structure Assessment where
  id : Nat
  tenant : Nat
  referential : Nat
  subset : Option Nat
  status : Status
  startedBy : Option Nat
  startedAt : Nat
  completedAt : Option Nat
  scoreGlobal : Option Float
  deriving DecidableEq

instance : Identified Assessment := ⟨Assessment.id⟩

inductive Value where
  | yes
  | part
  | no
  | notApplicable
  deriving DecidableEq, Repr

structure Answer where
  id : Nat
  tenant : Nat
  assessment : Nat
  measure : Nat
  value : Value
  note : String
  deriving DecidableEq, Repr

instance : Identified Answer := ⟨Answer.id⟩

/-- The measure of the assessment that the answer is about. -/
def Answer.question (answer : Answer) : Nat × Nat := (answer.assessment, answer.measure)

/-- The tables, with the foreign keys that protect the measures, the compositions
and the referentials in use, and one answer for a measure of an assessment. -/
structure Database where
  referentials : Table Referential
  domains : Table Domain
  measures : Table Measure
  subsets : Table MeasureSubset
  items : Table SubsetMeasure
  assignments : Table ReferentialAssignment
  assessments : Table Assessment
  answers : Table Answer
  listed : ∀ item ∈ items, ∃ measure ∈ measures, ident measure = item.measure
  composed : ∀ assessment ∈ assessments, ∀ subset, assessment.subset = some subset →
    ∃ row ∈ subsets, ident row = subset
  assessed : ∀ assessment ∈ assessments, ∃ row ∈ referentials, ident row = assessment.referential
  answeredOnce : answers.rows.Pairwise fun first second => first.question ≠ second.question

def Database.empty : Database where
  referentials := Table.empty
  domains := Table.empty
  measures := Table.empty
  subsets := Table.empty
  items := Table.empty
  assignments := Table.empty
  assessments := Table.empty
  answers := Table.empty
  listed := fun _ absent => (Table.not_mem_empty _ absent).elim
  composed := fun _ absent => (Table.not_mem_empty _ absent).elim
  assessed := fun _ absent => (Table.not_mem_empty _ absent).elim
  answeredOnce := List.Pairwise.nil

/-! ## Errors -/

inductive AssessmentsError where
  | general (message : String)
  | noActiveReferential (message : String)
  | referentialNotAssigned (message : String)
  | measureNotInReferential (message : String)
  | measureNotInScope (message : String)
  | subset (message : String)
  | alreadyCompleted (message : String)
  | incomplete (answered total : Nat)
  deriving DecidableEq, Repr

/-- A composition is refused, or the store rejects a measure listed twice. -/
inductive CompositionFailure where
  | refused (error : AssessmentsError)
  | integrity
  deriving DecidableEq, Repr

/-! ## Grants -/

def Database.isGranted (db : Database) (tenant : Nat) (referential : Referential) : Bool :=
  db.assignments.rows.any fun row =>
    row.tenant = tenant && row.referential = referential.id && row.revokedAt.isNone

/-- Grant a referential, or lift its withdrawal. -/
def assignReferential (db : Database) (tenant : Nat) (referential : Referential)
    (grantedBy : Option Nat) (note : String) : Except AssessmentsError Database :=
  if referential.ownerTenant ≠ none ∧ referential.ownerTenant ≠ some tenant then
    .error (.referentialNotAssigned
      "Ce référentiel est propre à un autre client et ne peut pas lui être attribué.")
  else
    .ok { db with
      assignments := db.assignments.updateOrCreate
        (fun row => row.tenant = tenant && row.referential = referential.id)
        (fun row =>
          if row.revokedAt.isSome then
            { row with
              revokedAt := none
              revokedBy := none
              note := if note = "" then row.note else note }
          else row)
        (fun row => by split <;> rfl)
        (fun key =>
          { id := key
            tenant
            referential := referential.id
            grantedBy
            note
            revokedAt := none
            revokedBy := none })
        (fun _ => rfl) }

/-- Withdraw a referential.  The assignment is kept, with the date. -/
def revokeReferential (db : Database) (now tenant : Nat) (referential : Referential)
    (revokedBy : Option Nat) : Database :=
  match db.assignments.rows.find? fun row =>
      row.tenant = tenant && row.referential = referential.id with
  | none => db
  | some assignment =>
      if assignment.revokedAt.isSome then db
      else
        { db with
          assignments := db.assignments.modify assignment.id
            (fun row => { row with revokedAt := some now, revokedBy }) (fun _ => rfl) }

/-! ## Compositions -/

/-- The measure of a referential under a code. -/
def Database.measureOf? (db : Database) (referential : Nat) (code : String) : Option Measure :=
  db.measures.rows.find? fun row => row.referential = referential && row.code = code

def isSubset (referential : Nat) (slug : String) (row : MeasureSubset) : Bool :=
  row.referential = referential && row.slug = slug

def Database.subsetOf? (db : Database) (referential : Nat) (slug : String) :
    Option MeasureSubset :=
  db.subsets.rows.find? (isSubset referential slug)

/-- The codes, checked before anything is written. -/
def checkComposition (db : Database) (referential : Referential) (slug : String)
    (measureCodes : List String) (ownerTenant : Option Nat) : Except AssessmentsError Unit :=
  if measureCodes = [] then
    .error (.subset "Un sous-ensemble doit contenir au moins une mesure.")
  else
    let unknown := measureCodes.filter fun code => (db.measureOf? referential.id code).isNone
    if unknown ≠ [] then
      .error (.subset
        ("Mesures inconnues dans « " ++ referential.sheet.name ++ " » : " ++
          String.intercalate ", " unknown ++ "."))
    else if (db.subsetOf? referential.id slug).any fun row => row.ownerTenant ≠ ownerTenant then
      .error (.subset
        "Une composition porte déjà cet identifiant. Choisissez un autre nom.")
    else .ok ()

/-- What the console or a client writes of a composition, its measures apart. -/
structure SubsetSheet where
  name : String
  description : String
  ownerTenant : Option Nat
  createdBy : Option Nat
  deriving DecidableEq, Repr

def SubsetSheet.rewrite (sheet : SubsetSheet) (row : MeasureSubset) : MeasureSubset :=
  { row with
    name := sheet.name
    description := sheet.description
    ownerTenant := sheet.ownerTenant
    createdBy := sheet.createdBy
    isActive := true }

def SubsetSheet.build (sheet : SubsetSheet) (referential : Nat) (slug : String) (key : Nat) :
    MeasureSubset where
  id := key
  referential := referential
  slug := slug
  name := sheet.name
  description := sheet.description
  ownerTenant := sheet.ownerTenant
  isActive := true
  createdBy := sheet.createdBy

/-- `update_or_create` of the row of a composition. -/
def Database.saveSubset (db : Database) (referential : Nat) (slug : String)
    (sheet : SubsetSheet) : Database × MeasureSubset :=
  ({ db with
      subsets := db.subsets.updateOrCreate (isSubset referential slug) sheet.rewrite
        (fun _ => rfl) (sheet.build referential slug) (fun _ => rfl)
      composed := fun assessment inside subset chosen =>
        Table.exists_ident_updateOrCreate (db.composed assessment inside subset chosen) },
    db.subsets.written (isSubset referential slug) sheet.rewrite (sheet.build referential slug))

def Database.dropItems (db : Database) (subset : Nat) : Database :=
  { db with
    items := db.items.deleteWhere fun row => row.subset = subset
    listed := fun item inside => db.listed item (Table.mem_deleteWhere.mp inside).1 }

/-- List measures in a composition, in order. -/
def Database.fillItems (db : Database) (subset : Nat) (chosen : List Measure)
    (known : ∀ measure ∈ chosen, measure ∈ db.measures) : Database :=
  { db with
    items := db.items.createAll
      (fun (ranked : Measure × Nat) key =>
        { id := key, subset, measure := ranked.1.id, order := ranked.2 })
      (fun _ _ => rfl) (chosen.zipIdx 1)
    listed := by
      intro item inside
      rcases Table.mem_createAll inside with old | ⟨ranked, listed, key, rfl⟩
      · exact db.listed item old
      · exact ⟨ranked.1, known ranked.1 (List.fst_mem_of_mem_zipIdx listed), rfl⟩ }

/-- The measures that a list of codes names. -/
def Database.chosen (db : Database) (referential : Nat) (measureCodes : List String) :
    List Measure :=
  measureCodes.filterMap (db.measureOf? referential)

theorem mem_chosen_measures (db : Database) {referential : Nat} {measureCodes : List String}
    {measure : Measure} (named : measure ∈ db.chosen referential measureCodes) :
    measure ∈ db.measures := by
  obtain ⟨code, _, found⟩ := List.mem_filterMap.mp named
  exact List.mem_of_find?_eq_some found

/-- Compose a questionnaire, or replace the measures of a known one.  Nothing
takes the deletion back when the store rejects a measure listed twice. -/
def createSubset (db : Database) (referential : Referential) (slug name : String)
    (measureCodes : List String) (description : String) (ownerTenant createdBy : Option Nat) :
    Database × Except CompositionFailure MeasureSubset :=
  match checkComposition db referential slug measureCodes ownerTenant with
  | .error error => (db, .error (.refused error))
  | .ok () =>
      let saved := db.saveSubset referential.id slug { name, description, ownerTenant, createdBy }
      let subset := saved.2
      let emptied := saved.1.dropItems subset.id
      let chosen := db.chosen referential.id measureCodes
      if (chosen.map Measure.id).Nodup then
        (emptied.fillItems subset.id chosen (fun _ => mem_chosen_measures db), .ok subset)
      else (emptied, .error .integrity)

/-! ## Measures -/

/-- Insert a measure, or update it by its code. -/
def Database.saveMeasure (db : Database) (referential : Nat) (code : String)
    (change : Measure → Measure) (keeps : ∀ row, ident (change row) = ident row)
    (build : Nat → Measure) (ident_build : ∀ key, ident (build key) = key) : Database :=
  { db with
    measures := db.measures.updateOrCreate
      (fun row => row.referential = referential && row.code = code) change keeps build ident_build
    listed := fun item inside => Table.exists_ident_updateOrCreate (db.listed item inside) }

def gradeValues : List String := ["low", "medium", "high"]

/-- The domain of a new measure, whose texts are checked before anything is written. -/
def checkMeasure (db : Database) (referential : Referential) (domainCode code officialTitle
    plainLanguage effort impact : String) : Except AssessmentsError Domain :=
  match db.domains.rows.find? fun row =>
      row.referential = referential.id && row.code = domainCode with
  | none =>
      .error (.measureNotInReferential
        ("Le domaine « " ++ domainCode ++ " » n'existe pas dans « " ++ referential.sheet.name ++
          " »."))
  | some domain =>
      if strip code = "" then
        .error (.measureNotInReferential "Le code de la mesure est obligatoire.")
      else if strip officialTitle = "" ∨ strip plainLanguage = "" then
        .error (.general "L'intitulé officiel et l'énoncé en langage clair sont obligatoires.")
      else if effort ∉ gradeValues ∨ impact ∉ gradeValues then
        .error (.general "Effort et impact : « low », « medium » ou « high ».")
      else if (db.measureOf? referential.id (strip code)).isSome then
        .error (.measureNotInReferential
          ("Une mesure « " ++ strip code ++ " » existe déjà dans ce référentiel."))
      else .ok domain

/-- A new measure has a new code. -/
theorem unknown_of_checkMeasure {db : Database} {referential : Referential} {domain : Domain}
    {domainCode code officialTitle plainLanguage effort impact : String}
    (checked : checkMeasure db referential domainCode code officialTitle plainLanguage effort
      impact = .ok domain) : ¬ (db.measureOf? referential.id (strip code)).isSome = true := by
  rw [checkMeasure] at checked
  intro known
  split at checked
  · cases checked
  · rw [if_pos known] at checked
    repeat' split at checked
    all_goals cases checked

def Database.createMeasure (db : Database) (build : Nat → Measure)
    (ident_build : ∀ key, ident (build key) = key) : Database :=
  { db with
    measures := db.measures.create build ident_build
    listed := by
      intro item inside
      obtain ⟨measure, known, same⟩ := db.listed item inside
      exact ⟨measure, Table.mem_create.mpr (Or.inl known), same⟩ }

/-- Add one measure at the end of a domain. -/
def addMeasure (db : Database) (referential : Referential) (domainCode code officialTitle
    plainLanguage level : String) (weight : Float) (effort impact sourceUrl
    sourceReference : String) : Except AssessmentsError (Database × Measure) :=
  match checkMeasure db referential domainCode code officialTitle plainLanguage effort impact with
  | .error error => .error error
  | .ok domain =>
      let lastRank := ((db.measures.rows.filter fun row => row.domain = domain.id).map
        Measure.order).foldl max 0
      let build := fun key =>
        { id := key
          referential := referential.id
          domain := domain.id
          code := strip code
          order := lastRank + 1
          sheet :=
            { number := none
              officialTitle := strip officialTitle
              plainLanguage := strip plainLanguage
              level
              weight
              effort
              impact
              effortImpactDisclaimer := true }
          sourceUrl
          sourceReference : Measure }
      .ok (db.createMeasure build (fun _ => rfl), build db.measures.next)

/-! ## Imports -/

structure ParsedMeasure where
  code : String
  sheet : MeasureSheet
  deriving DecidableEq

structure ParsedDomain where
  code : String
  name : String
  order : Nat
  description : String
  measures : List ParsedMeasure

structure ParsedReferential where
  slug : String
  sheet : ReferentialSheet
  domains : List ParsedDomain

/-- The file belongs to another owner. -/
inductive ReferentialImportError where
  | refused (message : String)
  deriving DecidableEq, Repr

/-- What an import did; the orphans are known measures that the file leaves out. -/
structure ImportReport where
  referential : Referential
  domains : Nat
  measures : Nat
  created : Nat
  updated : Nat
  orphans : List String

def ParsedReferential.measureCount (parsed : ParsedReferential) : Nat :=
  (parsed.domains.map fun domain => domain.measures.length).sum

def Database.saveReferential (db : Database) (parsed : ParsedReferential)
    (ownerTenant : Option Nat) (activate : Bool) : Database × Referential :=
  let selected := fun row : Referential => row.slug = parsed.slug
  let change := fun row : Referential =>
    { row with ownerTenant, sheet := parsed.sheet, isActive := activate }
  let build := fun key =>
    { id := key
      slug := parsed.slug
      ownerTenant
      isActive := activate
      sheet := parsed.sheet : Referential }
  ({ db with
      referentials := db.referentials.updateOrCreate selected change (fun _ => rfl) build
        (fun _ => rfl)
      assessed := fun assessment inside =>
        Table.exists_ident_updateOrCreate (db.assessed assessment inside) },
    db.referentials.written selected change build)

def Database.saveDomain (db : Database) (referential : Nat) (parsed : ParsedDomain) :
    Database × Domain :=
  let selected := fun row : Domain => row.referential = referential && row.code = parsed.code
  let change := fun row : Domain =>
    { row with name := parsed.name, description := parsed.description, order := parsed.order }
  let build := fun key =>
    { id := key
      referential
      code := parsed.code
      name := parsed.name
      description := parsed.description
      order := parsed.order : Domain }
  ({ db with
      domains := db.domains.updateOrCreate selected change (fun _ => rfl) build (fun _ => rfl) },
    db.domains.written selected change build)

/-- Update the measure of a code, or create it; the flag says that it was created. -/
def Database.importMeasure (db : Database) (referential domain position : Nat)
    (parsed : ParsedMeasure) : Database × Bool :=
  (db.saveMeasure referential parsed.code
      (fun row => { row with domain, order := position, sheet := parsed.sheet }) (fun _ => rfl)
      (fun key =>
        { id := key
          referential
          domain
          code := parsed.code
          order := position
          sheet := parsed.sheet
          sourceUrl := ""
          sourceReference := "" })
      (fun _ => rfl),
    (db.measureOf? referential parsed.code).isNone)

/-- The state of an import: the tables, and the measures created and updated. -/
structure Importing where
  db : Database
  created : Nat
  updated : Nat

def Importing.measure (referential domain : Nat) (state : Importing)
    (ranked : ParsedMeasure × Nat) : Importing :=
  let (db, created) := state.db.importMeasure referential domain ranked.2 ranked.1
  { db
    created := state.created + if created then 1 else 0
    updated := state.updated + if created then 0 else 1 }

def Importing.domain (referential : Nat) (state : Importing) (parsed : ParsedDomain) :
    Importing :=
  let (db, domain) := state.db.saveDomain referential parsed
  (parsed.measures.zipIdx 1).foldl (Importing.measure referential domain.id) { state with db }

/-- Write an analysed referential.  The measures that the file leaves out stay. -/
def importReferential (db : Database) (parsed : ParsedReferential) (activate : Bool)
    (ownerTenant : Option Nat) : Except ReferentialImportError (Database × ImportReport) :=
  if (db.referentials.rows.find? fun row => row.slug = parsed.slug).any fun row =>
      row.ownerTenant ≠ ownerTenant then
    .error (.refused
      ("Le référentiel « " ++ parsed.slug ++ " » appartient à un autre propriétaire : " ++
        "il ne peut pas être remplacé par cet import."))
  else
    let (saved, referential) := db.saveReferential parsed ownerTenant activate
    let knownBefore := (saved.measures.rows.filter fun row =>
      row.referential = referential.id).map Measure.code
    let seen := parsed.domains.flatMap fun domain => domain.measures.map ParsedMeasure.code
    let done := parsed.domains.foldl (Importing.domain referential.id)
      { db := saved, created := 0, updated := 0 }
    .ok
      (done.db,
        { referential
          domains := parsed.domains.length
          measures := parsed.measureCount
          created := done.created
          updated := done.updated
          orphans := (knownBefore.filter (· ∉ seen)).dedup.mergeSort })

end RssiService.Assessments
