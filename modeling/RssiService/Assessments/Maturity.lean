import Mathlib.Data.List.Sort
import RssiService.Foundation.FirstTwo
import RssiService.Assessments.Diagnostics

/-!
# Maturity

Two reports give a maturity score: the consolidated scores, one referential at
a time, and the indicators of a period, from one list of assessments.  Both
average the scores of the latest completed assessments.
-/

namespace RssiService.Assessments

open Foundation Python

/-! ## Completed assessments -/

/-- The completed assessments of a client that have a score. -/
def Database.scored (db : Database) (tenant : Nat) : List Assessment :=
  db.assessments.rows.filter fun row =>
    row.tenant = tenant && row.status = .completed && row.scoreGlobal.isSome

/-- `order_by("-completed_at")`; the store puts a missing date first. -/
def laterFirst (first second : Assessment) : Bool :=
  match first.completedAt, second.completedAt with
  | none, _ => true
  | some _, none => false
  | some here, some there => decide (there ≤ here)

def completedBy (instant : Nat) (row : Assessment) : Bool :=
  row.completedAt.any fun completedAt => completedAt ≤ instant

/-- The mean of scores to one decimal, when there is one. -/
def average (scores : List Float) : Option Float :=
  if scores.isEmpty then none
  else some (roundTenths (sum scores / scores.length.toFloat))

def consolidationMethod : String := "moyenne_par_referentiel"

/-! ## Consolidated scores -/

/-- The referentials that a client has, and those it has assessed. -/
def Database.readableReferentials (db : Database) (tenant : Nat) : List Referential :=
  (db.referentials.rows.filter fun row =>
      db.isGranted tenant row ||
        db.assessments.rows.any fun assessment =>
          assessment.tenant = tenant && assessment.referential = row.id).mergeSort
    fun first second => decide (first.sheet.name ≤ second.sheet.name)

structure ReferentialLine where
  referentialId : Nat
  referentialSlug : String
  referentialName : String
  assessmentId : Option Nat
  score : Option Float
  completedAt : Option Nat
  measureCount : Nat
  granted : Bool

/-- The latest score of a client on a referential, at an instant when one is given. -/
def referentialLine (db : Database) (tenant : Nat) (at? : Option Nat)
    (referential : Referential) : ReferentialLine :=
  let queryset := (db.scored tenant).filter fun row => row.referential = referential.id
  let queryset :=
    match at? with
    | none => queryset
    | some instant => queryset.filter (completedBy instant)
  match (queryset.mergeSort laterFirst).head? with
  | none =>
      { referentialId := referential.id
        referentialSlug := referential.slug
        referentialName := referential.sheet.name
        assessmentId := none
        score := none
        completedAt := none
        measureCount := (db.referentialMeasures referential.id).length
        granted := db.isGranted tenant referential }
  | some latest =>
      { referentialId := referential.id
        referentialSlug := referential.slug
        referentialName := referential.sheet.name
        assessmentId := some latest.id
        score := latest.scoreGlobal
        completedAt := latest.completedAt
        measureCount := (db.assessmentMeasures latest).length
        granted := db.isGranted tenant referential }

structure ConsolidatedScores where
  byReferential : List ReferentialLine
  consolidated : Option Float
  method : String
  scoredReferentials : Nat
  unscoredReferentials : List String

def consolidatedScores (db : Database) (tenant : Nat) (at? : Option Nat) : ConsolidatedScores :=
  let lines := (db.readableReferentials tenant).map (referentialLine db tenant at?)
  let scores := lines.filterMap ReferentialLine.score
  { byReferential := lines
    consolidated := average scores
    method := consolidationMethod
    scoredReferentials := scores.length
    unscoredReferentials :=
      (lines.filter fun line => line.score.isNone).map ReferentialLine.referentialName }

/-! ## Indicators of a period -/

def Database.referentialName (db : Database) (referential : Nat) : String :=
  (db.referentials.find? referential).elim "" fun row => row.sheet.name

structure HistoryPoint where
  date : Option Nat
  score : Option Float
  referential : String

structure MaturityDetail where
  referential : String
  score : Option Float
  measuredAt : Option Nat
  assessmentId : Nat

structure MaturityIndicators where
  score : Option Float
  measuredAt : Option Nat
  previousScore : Option Float
  previousMeasuredAt : Option Nat
  delta : Option Float
  completedInPeriod : Nat
  history : List HistoryPoint
  referentialCount : Nat
  method : Option String
  byReferential : List MaturityDetail

/-- The completed assessments up to the end of the period, the latest first. -/
def Database.completedUntil (db : Database) (tenant finish : Nat) : List Assessment :=
  (((db.scored tenant).filter fun row => row.completedAt.isSome).mergeSort laterFirst).filter
    (completedBy finish)

/-- Both lists are about the same referentials, and there is one. -/
def comparable (current previous : List Assessment) : Bool :=
  !current.isEmpty &&
    (current.all fun row => row.referential ∈ previous.map Assessment.referential) &&
    previous.all fun row => row.referential ∈ current.map Assessment.referential

def previousScores (current previous : List Assessment) : List Float :=
  if comparable current previous then
    current.filterMap fun row =>
      (previous.find? fun other => other.referential = row.referential).bind
        Assessment.scoreGlobal
  else []

def maturityIndicators (db : Database) (tenant start finish : Nat) : MaturityIndicators :=
  let inPeriod := db.completedUntil tenant finish
  let latest := FirstTwo.pass Assessment.referential inPeriod
  let current := latest.firsts
  let previous := latest.seconds
  let score := average (current.filterMap Assessment.scoreGlobal)
  let previousScore := average (previousScores current previous)
  let history := ((inPeriod.filter fun row => row.completedAt.any fun date => start ≤ date).map
    fun row =>
      { date := row.completedAt
        score := row.scoreGlobal
        referential := db.referentialName row.referential : HistoryPoint }).reverse
  { score
    measuredAt := (current.filterMap Assessment.completedAt).max?
    previousScore
    previousMeasuredAt :=
      if comparable current previous then (previous.filterMap Assessment.completedAt).max? else none
    delta :=
      match score, previousScore with
      | some score, some previousScore => some (roundTenths (score - previousScore))
      | _, _ => none
    completedInPeriod := history.length
    history
    referentialCount := current.length
    method := if 1 < current.length then some consolidationMethod else none
    byReferential :=
      (current.mergeSort fun first second =>
          decide (db.referentialName first.referential ≤ db.referentialName second.referential)).map
        fun row =>
          { referential := db.referentialName row.referential
            score := row.scoreGlobal
            measuredAt := row.completedAt
            assessmentId := row.id } }

/-! ## The claim -/

/-- No two completed assessments of the client were completed at the same time. -/
def Database.DistinctTimes (db : Database) (tenant : Nat) : Prop :=
  ∀ first ∈ db.scored tenant, ∀ second ∈ db.scored tenant,
    first.completedAt = second.completedAt → first = second

/-- The client had a score on the referential by then. -/
def Database.Covered (db : Database) (tenant instant referential : Nat) : Prop :=
  ∃ row ∈ db.scored tenant, row.referential = referential ∧ completedBy instant row = true

/-- The client had an earlier score on the referential than its latest by then. -/
def Database.CoveredBefore (db : Database) (tenant instant referential : Nat) : Prop :=
  ∃ earlier ∈ db.scored tenant, ∃ later ∈ db.scored tenant,
    (earlier.referential = referential ∧ later.referential = referential) ∧
      (completedBy instant earlier = true ∧ completedBy instant later = true) ∧
      ∃ first ∈ earlier.completedAt, ∃ second ∈ later.completedAt, first < second

/-! ## Latest first -/

section LatestFirst

/-- A missing date is after all dates. -/
def Assessment.completion (row : Assessment) : WithTop Nat :=
  row.completedAt.elim ⊤ WithTop.some

theorem laterFirst_iff {first second : Assessment} :
    laterFirst first second = true ↔ second.completion ≤ first.completion := by
  rw [laterFirst, Assessment.completion, Assessment.completion]
  cases first.completedAt <;> cases second.completedAt <;> simp

theorem completion_injective {first second : Assessment}
    (same : first.completion = second.completion) : first.completedAt = second.completedAt := by
  rw [Assessment.completion, Assessment.completion] at same
  cases here : first.completedAt <;> cases there : second.completedAt <;> simp_all

theorem pairwise_laterFirst (rows : List Assessment) :
    (rows.mergeSort laterFirst).Pairwise fun first second => laterFirst first second = true := by
  refine List.pairwise_mergeSort ?_ ?_ rows
  · intro first second third near far
    exact laterFirst_iff.mpr ((laterFirst_iff.mp far).trans (laterFirst_iff.mp near))
  · intro first second
    rw [Bool.or_eq_true, laterFirst_iff, laterFirst_iff]
    exact le_total _ _

/-- Lists of the same rows, the latest first, are the same where no two rows were
completed at the same time. -/
theorem eq_of_laterFirst {db : Database} {tenant : Nat} (distinct : db.DistinctTimes tenant)
    {left right : List Assessment} (known : ∀ row ∈ left, row ∈ db.scored tenant)
    (sortedLeft : left.Pairwise fun first second => laterFirst first second = true)
    (sortedRight : right.Pairwise fun first second => laterFirst first second = true)
    (same : left.Perm right) : left = right := by
  refine List.Perm.eq_of_pairwise ?_ sortedLeft sortedRight same
  intro first second inLeft inRight ahead behind
  refine distinct first (known first inLeft) second (known second (same.mem_iff.mpr inRight)) ?_
  exact completion_injective
    (le_antisymm (laterFirst_iff.mp behind) (laterFirst_iff.mp ahead))

end LatestFirst

/-! ## The same scores -/

section Scores

variable {db : Database} {tenant instant : Nat}

theorem isSome_of_completedBy {row : Assessment} (completed : completedBy instant row = true) :
    row.completedAt.isSome = true := by
  rw [completedBy] at completed
  cases date : row.completedAt with
  | none =>
      rw [date] at completed
      cases completed
  | some _ => rfl

theorem completedUntil_perm :
    (db.completedUntil tenant instant).Perm ((db.scored tenant).filter (completedBy instant)) := by
  refine ((List.mergeSort_perm _ _).filter _).trans ?_
  rw [List.filter_filter]
  refine List.Perm.of_eq (List.filter_congr fun row _ => ?_)
  rw [Bool.and_eq_left_iff_imp]
  exact isSome_of_completedBy

theorem mem_completedUntil {row : Assessment} : row ∈ db.completedUntil tenant instant ↔
    row ∈ db.scored tenant ∧ completedBy instant row = true := by
  rw [completedUntil_perm.mem_iff, List.mem_filter]

theorem pairwise_completedUntil (db : Database) (tenant instant : Nat) :
    (db.completedUntil tenant instant).Pairwise
      fun first second => laterFirst first second = true :=
  (pairwise_laterFirst _).filter _

/-- Both reports take the same assessment of a referential. -/
theorem latest_eq_find? (distinct : db.DistinctTimes tenant) (referential : Nat) :
    ((((db.scored tenant).filter fun row => row.referential = referential).filter
        (completedBy instant)).mergeSort laterFirst).head? =
      (db.completedUntil tenant instant).find? fun row => row.referential = referential := by
  rw [← List.head?_filter]
  congr 1
  refine eq_of_laterFirst distinct ?_ (pairwise_laterFirst _)
    ((pairwise_completedUntil db tenant instant).filter _) ?_
  · intro row inside
    exact (List.mem_filter.mp (List.mem_filter.mp (List.mem_mergeSort.mp inside)).1).1
  · refine (List.mergeSort_perm _ _).trans ?_
    rw [List.filter_comm]
    exact (completedUntil_perm.filter _).symm

theorem score_referentialLine (distinct : db.DistinctTimes tenant) (referential : Referential) :
    (referentialLine db tenant (some instant) referential).score =
      ((db.completedUntil tenant instant).find? fun row =>
        row.referential = referential.id).bind Assessment.scoreGlobal := by
  rw [← latest_eq_find? distinct, referentialLine]
  cases (List.mergeSort _ laterFirst).head? <;> rfl

/-- A client can read the referentials it has assessed. -/
theorem readable_of_scored {row : Assessment} (scored : row ∈ db.scored tenant) :
    ∃ referential ∈ db.readableReferentials tenant, referential.id = row.referential := by
  obtain ⟨stored, mine⟩ := List.mem_filter.mp scored
  obtain ⟨referential, known, same⟩ := db.assessed row stored
  refine ⟨referential, ?_, same⟩
  rw [Database.readableReferentials, List.mem_mergeSort, List.mem_filter, Bool.or_eq_true]
  refine ⟨known, Or.inr (List.any_eq_true.mpr ⟨row, stored, ?_⟩)⟩
  simp only [Bool.and_eq_true, decide_eq_true_eq] at mine ⊢
  exact ⟨mine.1.1, same.symm⟩

theorem mem_referentials_of_readable {referential : Referential}
    (readable : referential ∈ db.readableReferentials tenant) : referential ∈ db.referentials :=
  (List.mem_filter.mp (List.mem_mergeSort.mp readable)).1

theorem nodup_readableReferentials : (db.readableReferentials tenant).Nodup :=
  (List.mergeSort_perm _ _).nodup_iff.mpr (db.referentials.nodup_rows.filter _)

/-- The assessments taken one referential at a time are those taken from the list. -/
theorem taken_perm (rows : List Assessment) (scored : ∀ row ∈ rows, row ∈ db.scored tenant) :
    ((db.readableReferentials tenant).filterMap fun referential =>
        rows.find? fun row => row.referential = referential.id).Perm
      (FirstTwo.pass Assessment.referential rows).firsts := by
  refine (List.perm_ext_iff_of_nodup ?_ ?_).mpr fun row => ?_
  · have keys : ((db.readableReferentials tenant).map Referential.id).Nodup := by
      refine nodup_readableReferentials.map_on fun first inFirst second inSecond same => ?_
      exact Table.ident_injective (mem_referentials_of_readable inFirst)
        (mem_referentials_of_readable inSecond) same
    have taken : ((db.readableReferentials tenant).filterMap fun referential =>
        rows.find? fun row => row.referential = referential.id) =
        ((db.readableReferentials tenant).map Referential.id).filterMap fun referential =>
          rows.find? fun row => row.referential = referential := by
      rw [List.filterMap_map]
      rfl
    rw [taken]
    refine keys.filterMap fun first second row foundFirst foundSecond => ?_
    have inFirst : row.referential = first := by simpa using List.find?_some foundFirst
    have inSecond : row.referential = second := by simpa using List.find?_some foundSecond
    exact inFirst.symm.trans inSecond
  · exact List.Nodup.of_map _ (FirstTwo.nodup_firsts rows)
  · rw [FirstTwo.mem_firsts_iff, List.mem_filterMap]
    constructor
    · rintro ⟨referential, _, found⟩
      have mine : row.referential = referential.id := by simpa using List.find?_some found
      rw [mine]
      exact found
    · intro found
      obtain ⟨referential, readable, same⟩ :=
        readable_of_scored (scored row (List.mem_of_find?_eq_some found))
      exact ⟨referential, readable, same ▸ found⟩

theorem average_perm {first second : List Float} (same : first.Perm second) :
    average first = average second := by
  rw [average, average, sum_perm same, same.length_eq, same.isEmpty_eq]

theorem consolidated_eq_score (distinct : db.DistinctTimes tenant) (start : Nat) :
    (consolidatedScores db tenant (some instant)).consolidated =
      (maturityIndicators db tenant start instant).score := by
  have scored : ∀ row ∈ db.completedUntil tenant instant, row ∈ db.scored tenant :=
    fun row inside => (mem_completedUntil.mp inside).1
  refine average_perm ?_
  rw [List.filterMap_map]
  have lines : (ReferentialLine.score ∘ referentialLine db tenant (some instant)) = fun referential =>
      ((db.completedUntil tenant instant).find? fun row =>
        row.referential = referential.id).bind Assessment.scoreGlobal :=
    funext fun referential => score_referentialLine distinct referential
  rw [lines, ← List.filterMap_filterMap]
  exact (taken_perm _ scored).filterMap _

theorem covered_iff {referential : Nat} : db.Covered tenant instant referential ↔
    referential ∈ (db.completedUntil tenant instant).map Assessment.referential := by
  rw [Database.Covered, List.mem_map]
  refine exists_congr fun row => ?_
  rw [mem_completedUntil]
  tauto

theorem nodup_completedUntil (db : Database) (tenant instant : Nat) :
    (db.completedUntil tenant instant).Nodup :=
  completedUntil_perm.nodup_iff.mpr ((db.assessments.nodup_rows.filter _).filter _)

theorem pairwise_completedUntil_before (distinct : db.DistinctTimes tenant) :
    (db.completedUntil tenant instant).Pairwise fun later earlier =>
      ∃ first ∈ earlier.completedAt, ∃ second ∈ later.completedAt, first < second := by
  refine ((pairwise_completedUntil db tenant instant).and
    (nodup_completedUntil db tenant instant)).imp_of_mem ?_
  rintro later earlier inLater inEarlier ⟨ahead, apart⟩
  obtain ⟨scoredLater, byLater⟩ := mem_completedUntil.mp inLater
  obtain ⟨scoredEarlier, byEarlier⟩ := mem_completedUntil.mp inEarlier
  obtain ⟨first, dated⟩ := Option.isSome_iff_exists.mp (isSome_of_completedBy byEarlier)
  obtain ⟨second, datedLater⟩ := Option.isSome_iff_exists.mp (isSome_of_completedBy byLater)
  refine ⟨first, dated, second, datedLater, ?_⟩
  rw [laterFirst, datedLater, dated, decide_eq_true_eq] at ahead
  refine Nat.lt_of_le_of_ne ahead fun same => apart ?_
  exact distinct later scoredLater earlier scoredEarlier
    (datedLater.trans ((congrArg some same.symm).trans dated.symm))

theorem coveredBefore_iff (distinct : db.DistinctTimes tenant) {referential : Nat} :
    db.CoveredBefore tenant instant referential ↔
      referential ∈ (FirstTwo.pass Assessment.referential
        (db.completedUntil tenant instant)).seconds.map Assessment.referential := by
  rw [FirstTwo.mem_keys_seconds_iff_of_pairwise ?_ (pairwise_completedUntil_before distinct)]
  · constructor
    · rintro ⟨earlier, inEarlier, later, inLater, ⟨here, there⟩, ⟨byEarlier, byLater⟩, before⟩
      exact ⟨later, mem_completedUntil.mpr ⟨inLater, byLater⟩, earlier,
        mem_completedUntil.mpr ⟨inEarlier, byEarlier⟩, ⟨there, here⟩, before⟩
    · rintro ⟨later, inLater, earlier, inEarlier, ⟨there, here⟩, before⟩
      obtain ⟨scoredLater, byLater⟩ := mem_completedUntil.mp inLater
      obtain ⟨scoredEarlier, byEarlier⟩ := mem_completedUntil.mp inEarlier
      exact ⟨earlier, scoredEarlier, later, scoredLater, ⟨here, there⟩, ⟨byEarlier, byLater⟩,
        before⟩
  · rintro row ⟨first, dated, second, again, before⟩
    rw [Option.mem_unique dated again] at before
    exact Nat.lt_irrefl second before

theorem sameReferentials_of_delta (distinct : db.DistinctTimes tenant) {start : Nat}
    (reported : (maturityIndicators db tenant start instant).delta.isSome = true)
    (referential : Nat) :
    db.Covered tenant instant referential ↔ db.CoveredBefore tenant instant referential := by
  have compared : comparable
      (FirstTwo.pass Assessment.referential (db.completedUntil tenant instant)).firsts
      (FirstTwo.pass Assessment.referential (db.completedUntil tenant instant)).seconds = true := by
    by_contra apart
    have nothing : previousScores
        (FirstTwo.pass Assessment.referential (db.completedUntil tenant instant)).firsts
        (FirstTwo.pass Assessment.referential (db.completedUntil tenant instant)).seconds = [] :=
      if_neg apart
    rw [maturityIndicators] at reported
    dsimp only at reported
    rw [nothing, show average [] = none from rfl] at reported
    split at reported
    · rename_i absent
      cases absent
    · cases reported
  rw [comparable, Bool.and_eq_true, Bool.and_eq_true, List.all_eq_true, List.all_eq_true] at compared
  rw [covered_iff, ← FirstTwo.mem_keys_firsts_iff, coveredBefore_iff distinct]
  constructor
  · intro current
    obtain ⟨row, inside, rfl⟩ := List.mem_map.mp current
    exact of_decide_eq_true (compared.1.2 row inside)
  · intro previous
    obtain ⟨row, inside, rfl⟩ := List.mem_map.mp previous
    exact of_decide_eq_true (compared.2 row inside)

end Scores

/-- The two reports agree at every instant, and a delta compares the same
referentials. -/
theorem consolidated_agrees (db : Database) (tenant start instant : Nat)
    (distinct : db.DistinctTimes tenant) :
    (consolidatedScores db tenant (some instant)).consolidated =
        (maturityIndicators db tenant start instant).score ∧
      ((maturityIndicators db tenant start instant).delta.isSome = true →
        ∀ referential, db.Covered tenant instant referential ↔
          db.CoveredBefore tenant instant referential) :=
  ⟨consolidated_eq_score distinct start, sameReferentials_of_delta distinct⟩

/-! A questionnaire with full credit. -/

section FullCredit

def assessedOnce : Database :=
  match completeAssessment (answered startedOnFirst firstAssessment .yes) 5 firstAssessment with
  | .ok db => db
  | .error _ => Database.empty

theorem consolidated_agrees_once :
    (maturityIndicators assessedOnce 0 0 10).score = some 100.0 ∧
      (consolidatedScores assessedOnce 0 (some 10)).consolidated =
        (maturityIndicators assessedOnce 0 0 10).score ∧
      ((maturityIndicators assessedOnce 0 0 10).delta.isSome = true →
        ∀ referential, assessedOnce.Covered 0 10 referential ↔
          assessedOnce.CoveredBefore 0 10 referential) := by
  have distinct : ∀ first ∈ assessedOnce.scored 0, ∀ second ∈ assessedOnce.scored 0,
      first.completedAt = second.completedAt → first = second := by
    decide +kernel
  exact ⟨by decide +kernel, consolidated_agrees assessedOnce 0 0 10 distinct⟩

end FullCredit

end RssiService.Assessments
