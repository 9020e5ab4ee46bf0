import RssiService.Actions.ActionItems
import RssiService.Assessments.Scores
import RssiService.Assessments.SettledScopes

/-!
# The action plan of an assessment

An assessment that is completed has an item for each of its gaps.  The projected score
counts an item that is done as a measure that is wholly applied.
-/

namespace RssiService.Actions

open Foundation Foundation.Run Python Assessments
open Tenants (Directory)

/-! ## The plan -/

/-- An answer that leaves something to do. -/
def isGap : Value → Bool
  | .no | .part => true
  | .yes | .notApplicable => false

def fullCreditValue : Value := .yes

def ActionItem.isAbout (assessment measure : Nat) (item : ActionItem) : Bool :=
  item.assessment = assessment && item.measure = measure

def newItem (assessment : Assessment) (measure : Measure) (now key : Nat) : ActionItem where
  id := key
  tenant := assessment.tenant
  assessment := assessment.id
  measure := measure.id
  status := .todo
  assignee := none
  note := ""
  dueDate := none
  completedAt := none
  createdAt := now
  updatedAt := now

theorem ident_newItem (assessment : Assessment) (measure : Measure) (now key : Nat) :
    ident (newItem assessment measure now key) = key := rfl

/-- One measure of the loop: a gap gets an item, unless it has one. -/
def planMeasure (db : Database) (assessment : Assessment) (now : Nat)
    (state : Table ActionItem × Nat) (measure : Measure) : Table ActionItem × Nat :=
  if (db.answerValue? assessment measure.id).any isGap then
    if state.1.rows.any (ActionItem.isAbout assessment.id measure.id) then state
    else (state.1.create (newItem assessment measure now) (ident_newItem assessment measure now),
      state.2 + 1)
  else state

/-- An item for every gap of the scope, and how many were created. -/
def generateActionPlan (db : Database) (items : Table ActionItem) (assessment : Assessment)
    (now : Nat) : Table ActionItem × Nat :=
  (db.assessmentMeasures assessment).foldl (planMeasure db assessment now) (items, 0)

/-- The measures whose items are done. -/
def doneMeasures (items : Table ActionItem) (assessment : Assessment) : List Nat :=
  (items.rows.filter fun item => item.tenant = assessment.tenant &&
    item.assessment = assessment.id && item.status = .done).map ActionItem.measure

/-- The answers of the assessment, with the whole credit where the item is done. -/
def projectedValues (db : Database) (items : Table ActionItem) (assessment : Assessment)
    (measure : Nat) : Option Value :=
  if measure ∈ doneMeasures items assessment then some fullCreditValue
  else db.answerValue? assessment measure

def computeProjectedScore (db : Database) (items : Table ActionItem) (assessment : Assessment) :
    Scores Float :=
  computeScores db assessment (projectedValues db items assessment)

/-- `compute_projected_score` on exact numbers, before it rounds. -/
def exactProjectedScore (db : Database) (items : Table ActionItem) (assessment : Assessment) :
    Scores Exact :=
  exactScores db assessment (projectedValues db items assessment)

/-! ## Runs -/

structure Plans where
  db : Database
  items : Table ActionItem

inductive PlanEvent where
  | catalogue (event : CatalogueEvent)
  | start (now tenant : Nat) (user : Option Nat) (referential : Nat) (subset : Option Nat)
  | answer (assessment measure : Nat) (value : Value) (note : String)
  | complete (assessment now : Nat)
  | generate (assessment now : Nat)
  | change (directory : Directory) (item : Nat) (change : ItemChange) (now : Nat)

/-- Start an assessment on rows that are there. -/
def startOn (db : Database) (now tenant : Nat) (user : Option Nat) (referential : Nat)
    (subset : Option Nat) : Database :=
  match db.referentials.rows.attach.find? fun row => row.val.id = referential with
  | none => db
  | some row =>
      let questionnaire := subset.bind fun key =>
        db.subsets.rows.attach.find? fun composition => composition.val.id = key
      match startOrResumeAssessment db now tenant user row questionnaire with
      | .ok (after, _) => after
      | .error _ => db

/-- What is refused or not found changes nothing. -/
def planStep (plans : Plans) : PlanEvent → Plans
  | .catalogue event => { plans with db := catalogueStep plans.db event }
  | .start now tenant user referential subset =>
      { plans with db := startOn plans.db now tenant user referential subset }
  | .answer assessment measure value note =>
      match plans.db.assessments.find? assessment, plans.db.measures.find? measure with
      | some row, some asked =>
          match submitAnswer plans.db row asked value note with
          | .ok after => { plans with db := after }
          | .error _ => plans
      | _, _ => plans
  | .complete assessment now =>
      match plans.db.assessments.find? assessment with
      | none => plans
      | some row =>
          match completeAssessment plans.db now row with
          | .ok after => { plans with db := after }
          | .error _ => plans
  | .generate assessment now =>
      match plans.db.assessments.find? assessment with
      | none => plans
      | some row => { plans with items := (generateActionPlan plans.db plans.items row now).1 }
  | .change directory item change now =>
      { plans with items := changeItem directory plans.items item change now }

/-- The event recomposes the questionnaire of the assessment. -/
def RecomposedBy (assessment : Assessment) (plans : Plans) : PlanEvent → Prop
  | .catalogue event => Recomposes plans.db assessment event
  | _ => False

/-! ## What a generation creates -/

section Generation

variable {db : Database} {assessment : Assessment} {now : Nat} {measures : List Measure}
  {state : Table ActionItem × Nat} {items : Table ActionItem} {item : ActionItem}

/-- The answer to the measure leaves something to do. -/
def HasGap (db : Database) (assessment : Assessment) (measure : Nat) : Prop :=
  (db.answerValue? assessment measure).any isGap = true

theorem isAbout_iff {measure : Nat} :
    item.isAbout assessment.id measure = true ↔
      item.assessment = assessment.id ∧ item.measure = measure := by
  rw [ActionItem.isAbout, Bool.and_eq_true, decide_eq_true_eq, decide_eq_true_eq]

theorem mem_create_newItem {measure : Measure} :
    item ∈ items.create (newItem assessment measure now) (ident_newItem assessment measure now) ↔
      item ∈ items ∨ item = newItem assessment measure now items.next :=
  Table.mem_create

theorem mem_planMeasure_of_mem {measure : Measure} (member : item ∈ state.1) :
    item ∈ (planMeasure db assessment now state measure).1 := by
  rw [planMeasure]
  split
  · split
    · exact member
    · exact mem_create_newItem.mpr (.inl member)
  · exact member

theorem mem_plan_of_mem (member : item ∈ state.1) :
    item ∈ (measures.foldl (planMeasure db assessment now) state).1 := by
  induction measures generalizing state with
  | nil => exact member
  | cons measure rest ih => exact ih (mem_planMeasure_of_mem member)

theorem next_le_planMeasure {measure : Measure} :
    state.1.next ≤ (planMeasure db assessment now state measure).1.next := by
  rw [planMeasure]
  split
  · split
    · exact Nat.le_refl _
    · exact Nat.le_succ _
  · exact Nat.le_refl _

theorem next_le_plan :
    state.1.next ≤ (measures.foldl (planMeasure db assessment now) state).1.next := by
  induction measures generalizing state with
  | nil => exact Nat.le_refl _
  | cons measure rest ih => exact Nat.le_trans next_le_planMeasure ih

/-- An item was there, or it is a new one for a gap. -/
theorem mem_plan (listed : item ∈ (measures.foldl (planMeasure db assessment now) state).1) :
    item ∈ state.1 ∨ ∃ measure key, state.1.next ≤ key ∧ HasGap db assessment measure.id ∧
      item = newItem assessment measure now key := by
  induction measures generalizing state with
  | nil => exact .inl listed
  | cons measure rest ih =>
      rcases ih listed with earlier | ⟨other, key, fresh, gap, new⟩
      · rw [planMeasure] at earlier
        split at earlier
        · rename_i gap
          split at earlier
          · exact .inl earlier
          · rcases mem_create_newItem.mp earlier with old | new
            · exact .inl old
            · exact .inr ⟨measure, state.1.next, Nat.le_refl _, gap, new⟩
        · exact .inl earlier
      · exact .inr ⟨other, key, Nat.le_trans next_le_planMeasure fresh, gap, new⟩

/-- Afterwards each gap has an item. -/
theorem exists_mem_plan {measure : Measure} (asked : measure ∈ measures)
    (gap : HasGap db assessment measure.id) :
    ∃ item ∈ (measures.foldl (planMeasure db assessment now) state).1,
      item.assessment = assessment.id ∧ item.measure = measure.id := by
  obtain ⟨earlier, later, rfl⟩ := List.append_of_mem asked
  rw [List.foldl_append, List.foldl_cons]
  have here : ∃ item ∈ (planMeasure db assessment now
      (earlier.foldl (planMeasure db assessment now) state) measure).1,
      item.assessment = assessment.id ∧ item.measure = measure.id := by
    rw [HasGap] at gap
    rw [planMeasure, if_pos gap]
    split
    · rename_i known
      obtain ⟨item, inside, about⟩ := List.any_eq_true.mp known
      exact ⟨item, inside, isAbout_iff.mp about⟩
    · exact ⟨_, mem_create_newItem.mpr (.inr rfl), rfl, rfl⟩
  obtain ⟨item, inside, about⟩ := here
  exact ⟨item, mem_plan_of_mem inside, about⟩

/-- Where each gap has an item, a generation creates nothing. -/
theorem generateActionPlan_of_covered
    (covers : ∀ measure ∈ db.assessmentMeasures assessment, HasGap db assessment measure.id →
      ∃ item ∈ items, item.assessment = assessment.id ∧ item.measure = measure.id) :
    generateActionPlan db items assessment now = (items, 0) := by
  rw [generateActionPlan]
  generalize db.assessmentMeasures assessment = measures at covers
  induction measures with
  | nil => rfl
  | cons measure rest ih =>
      rw [List.forall_mem_cons] at covers
      have unchanged : planMeasure db assessment now (items, 0) measure = (items, 0) := by
        rw [planMeasure]
        split
        · rename_i gap
          obtain ⟨item, inside, about⟩ := covers.1 gap
          exact if_pos (List.any_eq_true.mpr ⟨item, inside, isAbout_iff.mpr about⟩)
        · rfl
      rw [List.foldl_cons, unchanged]
      exact ih covers.2

end Generation

/-! ## The plan in every state -/

/-- The assessment is there with the answers it was completed with, each gap of its scope
has an item, and its items are those of gaps. -/
structure Planned (assessment : Assessment) (plans : Plans) : Prop where
  member : assessment ∈ plans.db.assessments
  known : ∀ answer ∈ plans.db.listAnswers assessment, answer.measure < plans.db.measures.next
  covers : ∀ measure, plans.db.InScope assessment measure → HasGap plans.db assessment measure →
    ∃ item ∈ plans.items, item.assessment = assessment.id ∧ item.measure = measure
  sound : ∀ item ∈ plans.items, item.assessment = assessment.id →
    item.tenant = assessment.tenant ∧ HasGap plans.db assessment item.measure

section Steps

variable {assessment other : Assessment} {plans : Plans} {after : Database}

theorem unanswered_of_next_le {measure : Nat}
    (known : ∀ answer ∈ plans.db.listAnswers assessment, answer.measure < plans.db.measures.next)
    (fresh : plans.db.measures.next ≤ measure) : ¬HasGap plans.db assessment measure := by
  have none : plans.db.answerValue? assessment measure = none := by
    rw [Database.answerValue?, Option.map_eq_none_iff, List.find?_eq_none]
    intro answer listed
    have older := known answer listed
    rw [decide_eq_true_eq]
    omega
  rw [HasGap, none]
  exact Bool.false_ne_true

/-- The answers of the assessment decide on its gaps. -/
theorem hasGap_congr {before : Database} {measure : Nat}
    (answers : after.listAnswers assessment = before.listAnswers assessment) :
    HasGap after assessment measure ↔ HasGap before assessment measure := by
  rw [HasGap, HasGap, Database.answerValue?, Database.answerValue?, answers]

/-- The tables change without the answers of the assessment, and its scope grows by measures
that are not answered. -/
theorem Planned.of_db (planned : Planned assessment plans)
    (member : assessment ∈ after.assessments)
    (answers : after.listAnswers assessment = plans.db.listAnswers assessment)
    (grown : plans.db.measures.next ≤ after.measures.next)
    (scope : ∀ key, after.InScope assessment key →
      plans.db.InScope assessment key ∨ plans.db.measures.next ≤ key) :
    Planned assessment { plans with db := after } where
  member := member
  known := by
    intro answer listed
    rw [answers] at listed
    exact Nat.lt_of_lt_of_le (planned.known answer listed) grown
  covers := by
    intro measure inScope gap
    rw [hasGap_congr answers] at gap
    rcases scope measure inScope with old | fresh
    · exact planned.covers measure old gap
    · exact absurd gap (unanswered_of_next_le planned.known fresh)
  sound := by
    intro item inside mine
    rw [hasGap_congr answers]
    exact planned.sound item inside mine

theorem inScope_of_same (measures : after.measures = plans.db.measures)
    (items : after.items = plans.db.items) {key : Nat} (inScope : after.InScope assessment key) :
    plans.db.InScope assessment key ∨ plans.db.measures.next ≤ key := by
  rw [inScope_iff, Database.Carries, Database.Asks, measures, items] at inScope
  exact .inl (inScope_iff.mpr inScope)

theorem eq_of_found (member : assessment ∈ plans.db.assessments) {key : Nat}
    (found : plans.db.assessments.find? key = some other) (same : other.id = assessment.id) :
    other = assessment :=
  Table.ident_injective (Table.mem_of_find? found) member same

theorem Planned.startOn (planned : Planned assessment plans) (now tenant : Nat)
    (user : Option Nat) (referential : Nat) (subset : Option Nat) :
    Planned assessment
      { plans with db := startOn plans.db now tenant user referential subset } := by
  rw [Actions.startOn]
  split
  · exact planned
  · dsimp only
    split
    · rename_i after row started
      rw [startOrResumeAssessment] at started
      dsimp only at started
      split at started
      · cases started
      split at started
      · cases started
      split at started
      · cases started
      split at started
      · cases started
        exact planned
      · cases started
        exact planned.of_db (Table.mem_create.mpr (.inl planned.member)) rfl le_rfl
          fun key inScope => inScope_of_same rfl rfl inScope
    · exact planned

theorem Planned.submitAnswer (planned : Planned assessment plans)
    (completed : assessment.status = .completed) {key : Nat}
    (found : plans.db.assessments.find? key = some other) {measure : Measure} {value : Value}
    {note : String} (answered : submitAnswer plans.db other measure value note = .ok after) :
    Planned assessment { plans with db := after } := by
  rw [Assessments.submitAnswer] at answered
  split at answered
  · cases answered
  rename_i running
  split at answered
  · cases answered
  split at answered
  · cases answered
  cases answered
  have apart : other.id ≠ assessment.id := fun same =>
    running (eq_of_found planned.member found same ▸ completed)
  refine planned.of_db planned.member ?_ le_rfl fun key inScope => inScope_of_same rfl rfl inScope
  refine Table.filter_updateOrCreate ?_ ?_ ?_
  · intro row selected
    have question := of_decide_eq_true selected
    simp [(Prod.mk.inj question).1, apart]
  · intro row selected
    have question := of_decide_eq_true selected
    simp [(Prod.mk.inj question).1, apart]
  · intro key
    simp [apart]

theorem Planned.completeAssessment (planned : Planned assessment plans)
    (completed : assessment.status = .completed) {key now : Nat}
    (found : plans.db.assessments.find? key = some other)
    (closed : completeAssessment plans.db now other = .ok after) :
    Planned assessment { plans with db := after } := by
  rw [Assessments.completeAssessment] at closed
  split at closed
  · cases closed
  rename_i running
  dsimp only at closed
  split at closed
  · cases closed
  cases closed
  have apart : assessment.id ≠ other.id := fun same =>
    running (eq_of_found planned.member found same.symm ▸ completed)
  refine planned.of_db ?_ rfl le_rfl fun key inScope => inScope_of_same rfl rfl inScope
  rw [Database.closeAssessment]
  dsimp only
  rw [Table.mem_modify]
  exact ⟨assessment, planned.member, if_neg apart⟩

theorem Planned.generate (planned : Planned assessment plans) {key now : Nat}
    (found : plans.db.assessments.find? key = some other) :
    Planned assessment
      { plans with items := (generateActionPlan plans.db plans.items other now).1 } where
  member := planned.member
  known := planned.known
  covers := by
    intro measure inScope gap
    obtain ⟨item, inside, about⟩ := planned.covers measure inScope gap
    exact ⟨item, mem_plan_of_mem inside, about⟩
  sound := by
    intro item inside mine
    rcases mem_plan inside with old | ⟨measure, key, _, gap, rfl⟩
    · exact planned.sound item old mine
    · have same : other = assessment := eq_of_found planned.member found mine
      rw [same] at gap
      exact ⟨congrArg Assessment.tenant same, gap⟩

theorem Planned.changeItem (planned : Planned assessment plans) (directory : Directory)
    (key : Nat) (change : ItemChange) (now : Nat) :
    Planned assessment { plans with items := changeItem directory plans.items key change now } where
  member := planned.member
  known := planned.known
  covers := by
    intro measure inScope gap
    obtain ⟨item, inside, mine, about⟩ := planned.covers measure inScope gap
    have same := sameSubject_changed directory now item key change
    exact ⟨_, mem_changeItem.mpr ⟨item, inside, rfl⟩, same.assessment.trans mine,
      same.measure.trans about⟩
  sound := by
    intro item inside mine
    obtain ⟨source, old, rfl⟩ := mem_changeItem.mp inside
    have same := sameSubject_changed directory now source key change
    rw [same.tenant, same.measure]
    exact planned.sound source old (same.assessment.symm.trans mine)

theorem planned_step (planned : Planned assessment plans)
    (completed : assessment.status = .completed) {event : PlanEvent}
    (kept : ¬RecomposedBy assessment plans event) : Planned assessment (planStep plans event) := by
  cases event with
  | catalogue event =>
      have settled := settled_step planned.member kept
      refine planned.of_db (settled.assessments ▸ planned.member) ?_ settled.grown settled.scope
      rw [Database.listAnswers, settled.answers, Database.listAnswers]
  | start now tenant user referential subset =>
      exact planned.startOn now tenant user referential subset
  | answer key measure value note =>
      rw [planStep]
      split
      · rename_i other asked found _
        split
        · rename_i answered
          exact planned.submitAnswer completed found answered
        · exact planned
      · exact planned
  | complete key now =>
      rw [planStep]
      split
      · exact planned
      · rename_i other found
        split
        · rename_i closed
          exact planned.completeAssessment completed found closed
        · exact planned
  | generate key now =>
      rw [planStep]
      split
      · exact planned
      · rename_i other found
        exact planned.generate found
  | change directory key change now => exact planned.changeItem directory key change now

/-- A generation plans an assessment that has no item. -/
theorem planned_generated {db : Database} {items : Table ActionItem}
    (member : assessment ∈ db.assessments)
    (known : ∀ answer ∈ db.answers, ∃ measure ∈ db.measures, measure.id = answer.measure)
    (fresh : ∀ item ∈ items, item.assessment ≠ assessment.id) (now : Nat) :
    Planned assessment ⟨db, (generateActionPlan db items assessment now).1⟩ where
  member := member
  known := by
    intro answer listed
    obtain ⟨measure, inside, same⟩ := known answer (List.mem_filter.mp listed).1
    exact same ▸ db.measures.allocated measure inside
  covers := by
    rintro _ ⟨measure, asked, rfl⟩ gap
    exact exists_mem_plan asked gap
  sound := by
    intro item inside mine
    rcases mem_plan inside with old | ⟨measure, key, _, gap, rfl⟩
    · exact absurd mine (fresh item old)
    · exact ⟨rfl, gap⟩

end Steps

/-! ## Projected scores -/

/-- The items of these are done, and no other. -/
def marked (items : Table ActionItem) (done : ActionItem → Bool) (now : Nat) : Table ActionItem :=
  items.updateWhere (fun _ => true)
    (fun item => updateStatus item (if done item then .done else .todo) now) fun _ => rfl

/-- The answers, with the whole credit for some measures. -/
def credited (db : Database) (assessment : Assessment) (whole : List Nat) (measure : Nat) :
    Option Value :=
  if measure ∈ whole then some fullCreditValue else db.answerValue? assessment measure

section Projections

variable {db : Database} {assessment : Assessment} {items : Table ActionItem}
  {whole more : List Nat} {measures : List Measure} {measure : Measure}

theorem credited_nil : credited db assessment [] = db.answerValue? assessment := by
  funext measure
  exact if_neg List.not_mem_nil

theorem creditOf_whole (inside : measure.id ∈ whole) :
    creditOf (credited db assessment whole) measure = some 1 := by
  rw [creditOf, credited, if_pos inside]
  rfl

theorem creditOf_answer (outside : measure.id ∉ whole) :
    creditOf (credited db assessment whole) measure =
      (db.answerValue? assessment measure.id).bind Value.credit? := by
  rw [creditOf, credited, if_neg outside]

/-- A gap counts, with less than the whole credit. -/
theorem credit_of_gap (gap : HasGap db assessment measure.id) :
    ∃ credit, (db.answerValue? assessment measure.id).bind Value.credit? = some credit ∧
      credit ≤ 1 := by
  rw [HasGap] at gap
  cases given : db.answerValue? assessment measure.id with
  | none =>
      rw [given] at gap
      cases gap
  | some value =>
      rw [given] at gap
      cases value with
      | yes => cases gap
      | part => exact ⟨1 / 2, rfl, by norm_num⟩
      | no => exact ⟨0, rfl, by norm_num⟩
      | notApplicable => cases gap

/-- More gaps with the whole credit make a score that rises. -/
theorem improves_credited (positive : ∀ measure ∈ measures, measure.exactWeight.IsPositive)
    (subset : whole ⊆ more) (gaps : ∀ key ∈ more, HasGap db assessment key) :
    Improves (exactScore (credited db assessment whole) measures)
      (exactScore (credited db assessment more) measures) := by
  refine improves_of_credits positive fun measure _ => ?_
  by_cases first : measure.id ∈ whole
  · rw [creditOf_whole first, creditOf_whole (subset first)]
    exact .some (le_refl 1)
  · by_cases second : measure.id ∈ more
    · obtain ⟨credit, given, le⟩ := credit_of_gap (gaps _ second)
      rw [creditOf_answer first, given, creditOf_whole second]
      exact .some le
    · rw [creditOf_answer first, creditOf_answer second]
      cases (db.answerValue? assessment measure.id).bind Value.credit? with
      | none => exact .none
      | some credit => exact .some (le_refl credit)

/-- With the whole credit for every gap, the score is a hundred, or nothing is scored. -/
theorem completes_credited (positive : ∀ measure ∈ measures, measure.exactWeight.IsPositive)
    (gaps : ∀ key ∈ whole, HasGap db assessment key)
    (all : ∀ measure ∈ measures, HasGap db assessment measure.id → measure.id ∈ whole) :
    Completes (exactScore (db.answerValue? assessment) measures)
      (exactScore (credited db assessment whole) measures) := by
  have counts : ∀ measure ∈ measures, ∀ credit,
      creditOf (credited db assessment whole) measure = some credit → credit = 1 := by
    intro measure asked credit given
    by_cases inside : measure.id ∈ whole
    · rw [creditOf_whole inside] at given
      exact (Option.some.inj given).symm
    · rw [creditOf_answer inside] at given
      obtain ⟨value, answered, given⟩ := Option.bind_eq_some_iff.mp given
      have closed : ¬HasGap db assessment measure.id := fun gap => inside (all measure asked gap)
      rw [HasGap, answered] at closed
      cases value with
      | yes =>
          cases given
          rfl
      | part => exact absurd rfl closed
      | no => exact absurd rfl closed
      | notApplicable => cases given
  have improves : Improves (exactScore (credited db assessment []) measures)
      (exactScore (credited db assessment whole) measures) :=
    improves_credited positive (List.nil_subset _) gaps
  rw [credited_nil] at improves
  rcases exactScore_of_whole positive counts with absent | reached
  · exact .inr ⟨improves.1.mpr absent, absent⟩
  · exact .inl reached

theorem mem_doneMeasures {key : Nat} :
    key ∈ doneMeasures items assessment ↔ ∃ item ∈ items, item.tenant = assessment.tenant ∧
      item.assessment = assessment.id ∧ item.status = .done ∧ item.measure = key := by
  simp only [doneMeasures, List.mem_map, List.mem_filter, Bool.and_eq_true, decide_eq_true_eq,
    Table.mem_def, and_assoc]

theorem mem_doneMeasures_marked {done : ActionItem → Bool} {now key : Nat} :
    key ∈ doneMeasures (marked items done now) assessment ↔
      ∃ item ∈ items, item.tenant = assessment.tenant ∧ item.assessment = assessment.id ∧
        done item = true ∧ item.measure = key := by
  rw [mem_doneMeasures]
  constructor
  · rintro ⟨_, inside, tenant, mine, status, about⟩
    obtain ⟨item, old, rfl⟩ := Table.mem_updateWhere.mp inside
    refine ⟨item, old, tenant, mine, ?_, about⟩
    by_contra other
    simp [updateStatus, other] at status
  · rintro ⟨item, old, tenant, mine, chosen, about⟩
    refine ⟨_, Table.mem_updateWhere.mpr ⟨item, old, rfl⟩, tenant, mine, ?_, about⟩
    simp [updateStatus, chosen]

end Projections

/-- The projected scores of a plan: no lower than the scores, rising with the items that are
done, and a hundred when all of them are. -/
structure Advances (assessment : Assessment) (plans : Plans) : Prop where
  current : (exactScores plans.db assessment (plans.db.answerValue? assessment)).Both Improves
    (exactProjectedScore plans.db plans.items assessment)
  raises : ∀ done now,
    (exactScores plans.db assessment (plans.db.answerValue? assessment)).Both Improves
      (exactProjectedScore plans.db (marked plans.items done now) assessment)
  grows : ∀ done more now, (∀ item ∈ plans.items, done item = true → more item = true) →
    (exactProjectedScore plans.db (marked plans.items done now) assessment).Both Improves
      (exactProjectedScore plans.db (marked plans.items more now) assessment)
  full : ∀ done now, (∀ item ∈ plans.items, item.assessment = assessment.id → done item = true) →
    (exactScores plans.db assessment (plans.db.answerValue? assessment)).Both Completes
      (exactProjectedScore plans.db (marked plans.items done now) assessment)

/-- Another generation changes nothing, and where the weights are positive the projected
scores advance. -/
structure PlanHolds (assessment : Assessment) (plans : Plans) : Prop where
  settled : ∀ now, generateActionPlan plans.db plans.items assessment now = (plans.items, 0)
  advances : (∀ measure ∈ plans.db.assessmentMeasures assessment,
    measure.exactWeight.IsPositive) → Advances assessment plans

section Advancing

variable {assessment : Assessment} {plans : Plans}

theorem both_improves {whole more : List Nat}
    (positive : ∀ measure ∈ plans.db.assessmentMeasures assessment,
      measure.exactWeight.IsPositive)
    (subset : whole ⊆ more) (gaps : ∀ key ∈ more, HasGap plans.db assessment key) :
    (exactScores plans.db assessment (credited plans.db assessment whole)).Both Improves
      (exactScores plans.db assessment (credited plans.db assessment more)) :=
  both_scoresOf fun _ inside =>
    improves_credited (fun measure listed => positive measure (inside measure listed)) subset gaps

theorem Planned.advances (planned : Planned assessment plans)
    (positive : ∀ measure ∈ plans.db.assessmentMeasures assessment,
      measure.exactWeight.IsPositive) : Advances assessment plans := by
  have marks (done : ActionItem → Bool) (now : Nat) :
      ∀ key ∈ doneMeasures (marked plans.items done now) assessment,
        HasGap plans.db assessment key := by
    intro key listed
    obtain ⟨item, inside, _, mine, _, rfl⟩ := mem_doneMeasures_marked.mp listed
    exact (planned.sound item inside mine).2
  have start : exactScores plans.db assessment (plans.db.answerValue? assessment) =
      exactScores plans.db assessment (credited plans.db assessment []) := by
    rw [credited_nil]
  refine ⟨?_, ?_, ?_, ?_⟩
  · rw [start]
    refine both_improves positive (List.nil_subset _) fun key listed => ?_
    obtain ⟨item, inside, _, mine, _, rfl⟩ := mem_doneMeasures.mp listed
    exact (planned.sound item inside mine).2
  · intro done now
    rw [start]
    exact both_improves positive (List.nil_subset _) (marks done now)
  · intro done more now le
    refine both_improves positive (fun key listed => ?_) (marks more now)
    obtain ⟨item, inside, tenant, mine, chosen, about⟩ := mem_doneMeasures_marked.mp listed
    exact mem_doneMeasures_marked.mpr ⟨item, inside, tenant, mine, le item inside chosen, about⟩
  · intro done now all
    refine both_scoresOf fun measures inside => completes_credited
      (fun measure listed => positive measure (inside measure listed)) (marks done now) ?_
    intro measure listed gap
    obtain ⟨item, there, mine, about⟩ :=
      planned.covers measure.id ⟨measure, inside measure listed, rfl⟩ gap
    exact mem_doneMeasures_marked.mpr
      ⟨item, there, (planned.sound item there mine).1, mine, all item there mine, about⟩

theorem Planned.holds (planned : Planned assessment plans) : PlanHolds assessment plans where
  settled := fun _ => generateActionPlan_of_covered fun measure asked gap =>
    planned.covers measure.id ⟨measure, asked, rfl⟩ gap
  advances := planned.advances

end Advancing

/-- From the generation of the plan of an assessment that is completed, in every run that
does not recompose its questionnaire, another generation changes nothing and the projected
scores advance. -/
theorem plan_holds {db : Database} {items : Table ActionItem} {assessment : Assessment} (now : Nat)
    (member : assessment ∈ db.assessments) (completed : assessment.status = .completed)
    (known : ∀ answer ∈ db.answers, ∃ measure ∈ db.measures, measure.id = answer.measure)
    (fresh : ∀ item ∈ items, item.assessment ≠ assessment.id) {events : List PlanEvent}
    (kept : EachStep planStep (fun plans event => ¬RecomposedBy assessment plans event)
      ⟨db, (generateActionPlan db items assessment now).1⟩ events) :
    Always planStep (PlanHolds assessment)
      ⟨db, (generateActionPlan db items assessment now).1⟩ events := by
  have each : EachStep planStep (fun plans event => Planned assessment plans →
      Planned assessment (planStep plans event)) _ events :=
    kept.imp fun _ _ unchanged planned => planned_step planned completed unchanged
  exact (always_of_eachStep (planned_generated member known fresh now) each).imp
    fun _ => Planned.holds

/-! A company with a gap and a measure that is applied. -/

def audited : Assessment := ⟨0, 0, 0, none, .completed, none, 0, some 100, none⟩

def backups : MeasureSheet := ⟨none, "Sauvegardes", "Sauvegardez.", "", 1.0, "low", "high", true⟩

def audit : Database where
  referentials := ⟨[hygiene], 1, by decide, by decide⟩
  domains := ⟨[⟨0, 0, "postes", "Postes", "", 1⟩], 1, by decide, by decide⟩
  measures :=
    ⟨[⟨0, 0, 0, "1", 1, backups, "", ""⟩, ⟨1, 0, 0, "2", 2, backups, "", ""⟩], 2,
      List.pairwise_pair.mpr Nat.zero_lt_one,
      List.forall_mem_cons.mpr ⟨Nat.zero_lt_two, List.forall_mem_singleton.mpr Nat.one_lt_two⟩⟩
  subsets := .empty
  items := .empty
  assignments := .empty
  assessments := ⟨[audited], 1, List.pairwise_singleton _ _, by simp [ident, audited]⟩
  answers := ⟨[⟨0, 0, 0, 0, .no, ""⟩, ⟨1, 0, 0, 1, .yes, ""⟩], 2, by decide, by decide⟩
  listed := fun _ absent => (Table.not_mem_empty _ absent).elim
  composed := fun assessment member subset chosen => by
    rw [List.mem_singleton.mp (Table.mem_def.mp member)] at chosen
    cases chosen
  assessed := fun assessment member => by
    rw [List.mem_singleton.mp (Table.mem_def.mp member)]
    exact ⟨hygiene, List.mem_singleton_self hygiene, rfl⟩
  answeredOnce := List.pairwise_pair.mpr (by decide)

/-- The gap is done, and the plan is generated again. -/
def gapDone : List PlanEvent :=
  [.change ⟨.empty, .empty⟩ 0 (.status .done) 200, .generate 0 300]

theorem plan_holds_audit :
    Always planStep (PlanHolds audited) ⟨audit, (generateActionPlan audit .empty audited 100).1⟩
        gapDone ∧
      Advances audited
        (after planStep ⟨audit, (generateActionPlan audit .empty audited 100).1⟩ gapDone) := by
  have kept : EachStep planStep (fun plans event => ¬RecomposedBy audited plans event)
      ⟨audit, (generateActionPlan audit .empty audited 100).1⟩ gapDone := ⟨id, id, trivial⟩
  have known : ∀ answer ∈ audit.answers,
      ∃ measure ∈ audit.measures, measure.id = answer.measure := by
    intro answer member
    rcases List.mem_pair.mp member with rfl | rfl
    · exact ⟨_, List.mem_cons_self, rfl⟩
    · exact ⟨_, List.mem_cons_of_mem _ List.mem_cons_self, rfl⟩
  have holds := plan_holds 100 (List.mem_singleton_self audited) rfl known
    (fun _ absent => absurd absent List.not_mem_nil) kept
  refine ⟨holds, holds.last.advances fun measure asked => ?_⟩
  have weighs : measure.sheet.weight = 1.0 := by
    obtain ⟨inside, _⟩ := mem_assessmentMeasures.mp asked
    rcases List.mem_pair.mp inside with rfl | rfl <;> rfl
  rw [Measure.exactWeight, weighs]
  exact ⟨1, by decide +kernel, by norm_num⟩

end RssiService.Actions
