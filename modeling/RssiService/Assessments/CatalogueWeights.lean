import RssiService.Assessments.ScoreBounds
import RssiService.Foundation.Outcome

/-!
# The weights of a catalogue

Files, the watch and the console write measures, each with a weight of its own
reading.  A score of a catalogue is in range, and rises with each answer, in
every run whose weights are finite and positive; the console writes any weight.
-/

namespace RssiService.Assessments

open Foundation Foundation.Run Python

/-! ## Reading a weight -/

/-- What the platform supplies: the character tables, `float(value)`, whose
`TypeError` and `ValueError` are `none`, and how a float prints. -/
structure Numbers where
  unicode : Unicode
  float : Json → Option Float
  repr : Float → String

variable (numbers : Numbers)

/-- The weight of a measure in a file. -/
def readWeight (label : String) (value : Json) : Except ReferentialImportError Float :=
  if value.isBlank then .ok 1.0
  else
    match numbers.float value with
    | none =>
        .error (.refused (label ++ " : poids illisible (" ++ value.repr numbers.unicode ++ ")."))
    | some poids =>
        if (Exact.ofFloat poids).le (.finite 0) then
          .error (.refused
            (label ++ " : le poids doit être strictement positif (reçu " ++ numbers.repr poids ++
              ")."))
        else .ok poids

def anssiLevelWeight (level : String) : Float :=
  if level = "standard" then 1.0 else if level = "renforce" then 0.5 else 1.0

/-- The inherited form of a file has levels instead of weights. -/
inductive RawWeight where
  | given (value : Json)
  | inherited (level : String)

/-- A measure of a file, its weight apart. -/
structure RawMeasure where
  label : String
  measure : ParsedMeasure
  weight : RawWeight

/-- A domain of a file, its measures apart. -/
structure RawDomain where
  domain : ParsedDomain
  measures : List RawMeasure

/-- A file, its domains apart. -/
structure RawReferential where
  referential : ParsedReferential
  domains : List RawDomain

def RawWeight.read (label : String) : RawWeight → Except ReferentialImportError Float
  | .given value => readWeight numbers label value
  | .inherited level => .ok (anssiLevelWeight level)

def RawMeasure.read (raw : RawMeasure) : Except ReferentialImportError ParsedMeasure := do
  let weight ← raw.weight.read numbers raw.label
  return { raw.measure with sheet := { raw.measure.sheet with weight } }

def RawDomain.read (raw : RawDomain) : Except ReferentialImportError ParsedDomain := do
  let measures ← raw.measures.mapM (RawMeasure.read numbers)
  return { raw.domain with measures }

def RawReferential.read (raw : RawReferential) :
    Except ReferentialImportError ParsedReferential := do
  let domains ← raw.domains.mapM (RawDomain.read numbers)
  return { raw.referential with domains }

/-- `float(request.data.get("weight") or 1)`. -/
def consoleWeight (weight : Json) : Option Float :=
  if weight.isTruthy then numbers.float weight else some 1.0

/-- `FloatField(required=False, default=1.0, min_value=0.01)`. -/
def watchWeight (weight : Option Json) : Option Float :=
  match weight with
  | none => some 1.0
  | some value =>
      (numbers.float value).filter fun weight =>
        !(Exact.ofFloat weight).lt (Exact.ofFloat 0.01)

/-! ## Requests -/

/-- A measure to add, its weight apart. -/
structure MeasureDraft where
  referential : Nat
  domainCode : String
  code : String
  officialTitle : String
  plainLanguage : String
  level : String
  effort : String
  impact : String
  sourceUrl : String
  sourceReference : String

def MeasureDraft.add (draft : MeasureDraft) (weight : Float) : CatalogueEvent :=
  .addMeasure draft.referential draft.domainCode draft.code draft.officialTitle
    draft.plainLanguage draft.level weight draft.effort draft.impact draft.sourceUrl
    draft.sourceReference

inductive CatalogueRequest where
  | importFile (raw : RawReferential) (activate : Bool) (ownerTenant : Option Nat)
  | watch (draft : MeasureDraft) (weight : Option Json)
  | console (draft : MeasureDraft) (weight : Json)
  | compose (referential : Nat) (slug name : String) (measureCodes : List String)
      (description : String) (ownerTenant createdBy : Option Nat)
  | grant (tenant referential : Nat) (grantedBy : Option Nat) (note : String)
  | revoke (now tenant referential : Nat) (revokedBy : Option Nat)

/-- A request whose weight cannot be read changes nothing. -/
def catalogueRequest (db : Database) : CatalogueRequest → Database
  | .importFile raw activate ownerTenant =>
      match raw.read numbers with
      | .error _ => db
      | .ok parsed => catalogueStep db (.importFile parsed activate ownerTenant)
  | .watch draft weight =>
      match watchWeight numbers weight with
      | none => db
      | some weight => catalogueStep db (draft.add weight)
  | .console draft weight =>
      match consoleWeight numbers weight with
      | none => db
      | some weight => catalogueStep db (draft.add weight)
  | .compose referential slug name measureCodes description ownerTenant createdBy =>
      catalogueStep db
        (.compose referential slug name measureCodes description ownerTenant createdBy)
  | .grant tenant referential grantedBy note =>
      catalogueStep db (.grant tenant referential grantedBy note)
  | .revoke now tenant referential revokedBy =>
      catalogueStep db (.revoke now tenant referential revokedBy)

/-- The weights of a request can be scored: those of a file and of the watch are
finite, and that of the console is finite and positive. -/
def GivesWeights : CatalogueRequest → Prop
  | .importFile raw _ _ => ∀ parsed, raw.read numbers = .ok parsed →
      ∀ domain ∈ parsed.domains, ∀ measure ∈ domain.measures,
        (Exact.ofFloat measure.sheet.weight).IsFinite
  | .watch _ weight => ∀ read, watchWeight numbers weight = some read →
      (Exact.ofFloat read).IsFinite
  | .console _ weight => ∀ read, consoleWeight numbers weight = some read →
      (Exact.ofFloat read).IsPositive
  | .compose .. | .grant .. | .revoke .. => True

/-- Any measures of the catalogue, asked together, score well. -/
def Database.ScoresWell (db : Database) : Prop :=
  ∀ measures : List Measure, (∀ measure ∈ measures, measure ∈ db.measures) →
    Assessments.ScoresWell measures

/-! ## Positive weights -/

section Positive

variable {numbers} {db : Database}

theorem isPositive_of_finite {x : Exact} (finite : x.IsFinite) (refused : x.le (.finite 0) = false) :
    x.IsPositive := by
  obtain ⟨value, rfl⟩ := finite
  exact ⟨value, rfl, by simpa [Exact.le] using refused⟩

theorem isPositive_one : (Exact.ofFloat 1.0).IsPositive := ⟨1, by decide +kernel, by norm_num⟩

/-- A finite weight that a file gives is positive. -/
theorem isPositive_readWeight {label : String} {value : Json} {weight : Float}
    (read : readWeight numbers label value = .ok weight)
    (finite : (Exact.ofFloat weight).IsFinite) : (Exact.ofFloat weight).IsPositive := by
  rw [readWeight] at read
  split at read
  · cases read
    exact isPositive_one
  · split at read
    · cases read
    · split at read
      · cases read
      · rename_i positive
        cases read
        exact isPositive_of_finite finite (Bool.eq_false_iff.mpr positive)

theorem isPositive_anssiLevelWeight (level : String) :
    (Exact.ofFloat (anssiLevelWeight level)).IsPositive := by
  rw [anssiLevelWeight]
  split_ifs
  · exact isPositive_one
  · exact ⟨1 / 2, by decide +kernel, by norm_num⟩
  · exact isPositive_one

theorem isPositive_readMeasure {raw : RawMeasure} {measure : ParsedMeasure}
    (read : raw.read numbers = .ok measure)
    (finite : (Exact.ofFloat measure.sheet.weight).IsFinite) :
    (Exact.ofFloat measure.sheet.weight).IsPositive := by
  obtain ⟨weight, given, whole⟩ := Outcome.bind_eq_ok.mp read
  cases whole
  cases form : raw.weight with
  | given value =>
      rw [form] at given
      exact isPositive_readWeight given finite
  | inherited level =>
      rw [form] at given
      cases given
      exact isPositive_anssiLevelWeight level

theorem isPositive_readReferential {raw : RawReferential} {parsed : ParsedReferential}
    (read : raw.read numbers = .ok parsed)
    (finite : ∀ domain ∈ parsed.domains, ∀ measure ∈ domain.measures,
      (Exact.ofFloat measure.sheet.weight).IsFinite) :
    ∀ domain ∈ parsed.domains, ∀ measure ∈ domain.measures,
      (Exact.ofFloat measure.sheet.weight).IsPositive := by
  obtain ⟨domains, all, whole⟩ := Outcome.bind_eq_ok.mp read
  cases whole
  intro domain listed measure asked
  obtain ⟨rawDomain, _, readDomain⟩ := Outcome.exists_of_mem_mapM_ok all listed
  have fits := finite domain listed measure asked
  obtain ⟨measures, allMeasures, wholeDomain⟩ := Outcome.bind_eq_ok.mp readDomain
  cases wholeDomain
  obtain ⟨rawMeasure, _, readMeasure⟩ := Outcome.exists_of_mem_mapM_ok allMeasures asked
  exact isPositive_readMeasure readMeasure fits

/-- A finite weight of the watch is at least its minimum. -/
theorem isPositive_watchWeight {weight : Option Json} {read : Float}
    (given : watchWeight numbers weight = some read) (finite : (Exact.ofFloat read).IsFinite) :
    (Exact.ofFloat read).IsPositive := by
  have least : ∃ minimum : ℚ, Exact.ofFloat 0.01 = .finite minimum ∧ 0 < minimum :=
    ⟨5764607523034235 / 2 ^ 59, by decide +kernel, by positivity⟩
  unfold watchWeight at given
  split at given
  · cases given
    exact isPositive_one
  · obtain ⟨_, accepted⟩ := Option.filter_eq_some_iff.mp given
    obtain ⟨value, exact⟩ := finite
    obtain ⟨minimum, bound, positive⟩ := least
    rw [exact, bound] at accepted
    have above : minimum ≤ value := by simpa [Exact.lt] using accepted
    exact ⟨value, exact, positive.trans_le above⟩

/-- Every weight of the catalogue is finite and positive. -/
def Database.PositiveWeights (db : Database) : Prop :=
  ∀ measure ∈ db.measures, measure.exactWeight.IsPositive

theorem scoresWell_of_positiveWeights (positive : db.PositiveWeights) : db.ScoresWell := by
  intro measures known
  refine scoresWell_of_oneSign ⟨1, fun measure asked => ?_⟩
  obtain ⟨weight, exact, positive⟩ := positive measure (known measure asked)
  exact ⟨weight, exact, by rwa [one_mul]⟩

theorem positiveWeights_importMeasure {referential domain : Nat} {state : Importing}
    {ranked : ParsedMeasure × Nat} (positive : state.db.PositiveWeights)
    (weight : (Exact.ofFloat ranked.1.sheet.weight).IsPositive) :
    (state.measure referential domain ranked).db.PositiveWeights :=
  Table.forall_updateOrCreate positive (fun _ => weight) (fun _ => weight)

theorem positiveWeights_importDomain {referential : Nat} {state : Importing}
    {parsed : ParsedDomain} (positive : state.db.PositiveWeights)
    (weights : ∀ measure ∈ parsed.measures, (Exact.ofFloat measure.sheet.weight).IsPositive) :
    (state.domain referential parsed).db.PositiveWeights := by
  rw [Importing.domain]
  dsimp only
  refine List.foldlRecOn (motive := fun state : Importing => state.db.PositiveWeights)
    (parsed.measures.zipIdx 1) _ positive ?_
  intro state positive pair listed
  exact positiveWeights_importMeasure positive
    (weights pair.1 (List.fst_mem_of_mem_zipIdx listed))

theorem positiveWeights_importReferential {parsed : ParsedReferential} {activate : Bool}
    {ownerTenant : Option Nat} {after : Database} {report : ImportReport}
    (positive : db.PositiveWeights)
    (weights : ∀ domain ∈ parsed.domains, ∀ measure ∈ domain.measures,
      (Exact.ofFloat measure.sheet.weight).IsPositive)
    (imported : importReferential db parsed activate ownerTenant = .ok (after, report)) :
    after.PositiveWeights := by
  rw [importReferential] at imported
  split at imported
  · cases imported
  · cases imported
    refine List.foldlRecOn (motive := fun state : Importing => state.db.PositiveWeights)
      parsed.domains _ positive ?_
    intro state positive domain listed
    exact positiveWeights_importDomain positive (weights domain listed)

theorem positiveWeights_importFile {parsed : ParsedReferential} {activate : Bool}
    {ownerTenant : Option Nat} (positive : db.PositiveWeights)
    (weights : ∀ domain ∈ parsed.domains, ∀ measure ∈ domain.measures,
      (Exact.ofFloat measure.sheet.weight).IsPositive) :
    (catalogueStep db (.importFile parsed activate ownerTenant)).PositiveWeights := by
  rw [catalogueStep]
  cases imported : importReferential db parsed activate ownerTenant with
  | error _ => exact positive
  | ok result => exact positiveWeights_importReferential positive weights imported

theorem positiveWeights_add {draft : MeasureDraft} {weight : Float}
    (positive : db.PositiveWeights) (given : (Exact.ofFloat weight).IsPositive) :
    (catalogueStep db (draft.add weight)).PositiveWeights := by
  rw [MeasureDraft.add, catalogueStep]
  split
  · exact positive
  · rename_i row _
    rw [addMeasure]
    cases checkMeasure db row draft.domainCode draft.code draft.officialTitle draft.plainLanguage
      draft.effort draft.impact with
    | error _ => exact positive
    | ok domain =>
        intro measure member
        rcases Table.mem_create.mp member with old | rfl
        · exact positive measure old
        · exact given

/-- An edit that writes no measure. -/
theorem positiveWeights_of_same {after : Database} (positive : db.PositiveWeights)
    (measures : after.measures = db.measures) : after.PositiveWeights := by
  rw [Database.PositiveWeights, measures]
  exact positive

theorem measures_compose (referential : Nat) (slug name : String) (measureCodes : List String)
    (description : String) (ownerTenant createdBy : Option Nat) :
    (catalogueStep db (.compose referential slug name measureCodes description ownerTenant
      createdBy)).measures = db.measures := by
  rw [catalogueStep]
  split
  · rfl
  · exact (tables_createSubset rfl).1

theorem measures_grant (tenant referential : Nat) (grantedBy : Option Nat) (note : String) :
    (catalogueStep db (.grant tenant referential grantedBy note)).measures = db.measures := by
  rw [catalogueStep]
  split
  · rfl
  · rw [assignReferential]
    split_ifs <;> rfl

theorem measures_revoke (now tenant referential : Nat) (revokedBy : Option Nat) :
    (catalogueStep db (.revoke now tenant referential revokedBy)).measures = db.measures := by
  rw [catalogueStep]
  split
  · rfl
  · rw [revokeReferential]
    split
    · rfl
    · split_ifs <;> rfl

/-- A request whose weights can be scored keeps the weights positive. -/
theorem positiveWeights_request (request : CatalogueRequest) (positive : db.PositiveWeights)
    (gives : GivesWeights numbers request) :
    (catalogueRequest numbers db request).PositiveWeights := by
  cases request with
  | importFile raw activate ownerTenant =>
      rw [catalogueRequest]
      cases read : raw.read numbers with
      | error _ => exact positive
      | ok parsed =>
          exact positiveWeights_importFile positive
            (isPositive_readReferential read (gives parsed read))
  | watch draft weight =>
      rw [catalogueRequest]
      cases read : watchWeight numbers weight with
      | none => exact positive
      | some weight =>
          exact positiveWeights_add positive (isPositive_watchWeight read (gives weight read))
  | console draft weight =>
      rw [catalogueRequest]
      cases read : consoleWeight numbers weight with
      | none => exact positive
      | some weight => exact positiveWeights_add positive (gives weight read)
  | compose referential slug name measureCodes description ownerTenant createdBy =>
      exact positiveWeights_of_same positive (measures_compose ..)
  | grant tenant referential grantedBy note =>
      exact positiveWeights_of_same positive (measures_grant ..)
  | revoke now tenant referential revokedBy =>
      exact positiveWeights_of_same positive (measures_revoke ..)

end Positive

/-- In every run whose weights can be scored, the measures of the catalogue score
well; and any measures score well exactly when their weights are finite and of
one sign. -/
theorem catalogue_scoresWell (numbers : Numbers) :
    (∀ requests, EachStep (catalogueRequest numbers) (fun _ => GivesWeights numbers)
        Database.empty requests →
      Always (catalogueRequest numbers) Database.ScoresWell Database.empty requests) ∧
      ∀ measures : List Measure, (measures.map Measure.id).Nodup →
        (ScoresWell measures ↔ OneSign measures) := by
  refine ⟨fun requests gives => ?_, fun measures nodup => scoresWell_iff nodup⟩
  have kept : Always (catalogueRequest numbers) Database.PositiveWeights Database.empty
      requests := by
    refine always_of_eachStep (fun _ absent => (Table.not_mem_empty _ absent).elim)
      (gives.imp ?_)
    intro db request gives positive
    exact positiveWeights_request request positive gives
  exact kept.imp fun _ => scoresWell_of_positiveWeights

/-! A referential of one measure, to which the console adds a measure of negative weight. -/

section Negative

/-- `float(value)` on the numbers of the requests below. -/
def sampleNumbers : Numbers where
  unicode := ⟨id, id, fun _ => true⟩
  float := fun value =>
    match value with
    | .int value => some (Float.ofInt value)
    | _ => none
  repr := fun _ => "-2.0"

def oneMeasure : RawReferential where
  referential := { twoMeasures with domains := [] }
  domains :=
    [{ domain := ⟨"postes", "Postes", 1, "", []⟩
       measures :=
        [{ label := "Domaine « postes »"
           measure := ⟨"1", ⟨none, "Intitulé", "Énoncé", "", 0.0, "low", "low", true⟩⟩
           weight := .given .null }] }]

def negativeMeasure : MeasureDraft :=
  ⟨0, "postes", "2", "Intitulé", "Énoncé", "", "low", "low", "", ""⟩

def negativeRequests : List CatalogueRequest :=
  [.importFile oneMeasure true none, .console negativeMeasure (.int (-2))]

/-- Yes to the first measure and no to the second give a score of -100. -/
theorem catalogue_scoresWell_console :
    ¬ Always (catalogueRequest sampleNumbers) Database.ScoresWell Database.empty
      negativeRequests := by
  intro always
  let last := after (catalogueRequest sampleNumbers) Database.empty negativeRequests
  have weights : last.measures.rows.map Measure.exactWeight = [.finite 1, .finite (-2)] := by
    decide +kernel
  have nodup : (last.measures.rows.map Measure.id).Nodup := by decide +kernel
  obtain ⟨sign, signed⟩ := oneSign_of_scoresWell nodup (always.last _ fun _ => id)
  have both : ∀ exact ∈ [Exact.finite 1, .finite (-2)], ∃ weight,
      exact = .finite weight ∧ 0 < sign * weight := by
    rw [← weights]
    exact List.forall_mem_map.mpr signed
  obtain ⟨first, same, positive⟩ := both (.finite 1) (by simp)
  obtain ⟨second, same', positive'⟩ := both (.finite (-2)) (by simp)
  rw [← Exact.finite.inj same] at positive
  rw [← Exact.finite.inj same'] at positive'
  linarith

end Negative

end RssiService.Assessments
