import Mathlib.Algebra.BigOperators.Ring.List
import Mathlib.Algebra.Order.BigOperators.Group.List
import Mathlib.Tactic.FieldSimp
import Mathlib.Tactic.Positivity
import RssiService.Assessments.ScopeChanges
import RssiService.Python.Exact
import RssiService.Python.Json

/-!
# The bounds of a score

On exact numbers, a weighted score lies between 0 and 100 and rises with each
answer exactly when the weights are finite and of one sign.  The imports and
the watch check the weights they write; the console does not.
-/

namespace RssiService.Assessments

open Foundation Foundation.Run Python

/-! ## The exact score -/

/-- `VALUE_SCORES`, on exact numbers. -/
def Value.credit? : Value → Option ℚ
  | .yes => some 1
  | .part => some (1 / 2)
  | .no => some 0
  | .notApplicable => none

def Measure.exactWeight (measure : Measure) : Exact := Exact.ofFloat measure.sheet.weight

/-- The credit of the answer to a measure, when it has one that counts. -/
def creditOf (values : Nat → Option Value) (measure : Measure) : Option ℚ :=
  (values measure.id).bind Value.credit?

def weighExactly (values : Nat → Option Value) (sums : Exact × Exact) (measure : Measure) :
    Exact × Exact :=
  match creditOf values measure with
  | none => sums
  | some credit =>
      (sums.1.add ((Exact.finite credit).mul measure.exactWeight),
        sums.2.add measure.exactWeight)

/-- `score_from_values` before it is rounded. -/
def exactScore (values : Nat → Option Value) (measures : List Measure) : Option Exact :=
  let (weighted, total) := measures.foldl (weighExactly values) (.finite 0, .finite 0)
  if total = .finite 0 then none else some (((Exact.finite 100).mul weighted).div total)

/-! ## The claim and its condition -/

/-- The score is absent when no answer counts, and lies between 0 and 100 otherwise. -/
def InRange (values : Nat → Option Value) (measures : List Measure) : Prop :=
  match exactScore values measures with
  | none => ∀ measure ∈ measures, creditOf values measure = none
  | some score => ∃ value : ℚ, score = .finite value ∧ 0 ≤ value ∧ value ≤ 100

/-- The first score is no greater than the second. -/
def NoGreater (first second : Option Exact) : Prop :=
  ∀ value, first = some (.finite value) →
    ∃ value', second = some (.finite value') ∧ value ≤ value'

/-- Any answers give a score in range, and a better answer gives no lower one. -/
structure ScoresWell (measures : List Measure) : Prop where
  range : ∀ values, InRange values measures
  better : ∀ values, ∀ measure ∈ measures, ∀ credit, creditOf values measure = some credit →
    ∀ answer : Value, ∀ credit', answer.credit? = some credit' → credit ≤ credit' →
      NoGreater (exactScore values measures)
        (exactScore (Function.update values measure.id (some answer)) measures)

/-- The weights are finite, and all positive or all negative. -/
def OneSign (measures : List Measure) : Prop :=
  ∃ sign : ℚ, ∀ measure ∈ measures, ∃ weight,
    measure.exactWeight = .finite weight ∧ 0 < sign * weight

section Sums

variable {values values' : Nat → Option Value} {measures : List Measure} {weight : Measure → ℚ}

/-- What a measure brings to the weighted sum, and to the sum of the weights. -/
def gain (values : Nat → Option Value) (weight : Measure → ℚ) (measure : Measure) : ℚ :=
  (creditOf values measure).elim 0 fun credit => credit * weight measure

def counted (values : Nat → Option Value) (weight : Measure → ℚ) (measure : Measure) : ℚ :=
  (creditOf values measure).elim 0 fun _ => weight measure

theorem foldl_weighExactly (finite : ∀ measure ∈ measures, measure.exactWeight = .finite (weight measure))
    (weighted total : ℚ) :
    measures.foldl (weighExactly values) (.finite weighted, .finite total) =
      (.finite (weighted + (measures.map (gain values weight)).sum),
        .finite (total + (measures.map (counted values weight)).sum)) := by
  induction measures generalizing weighted total with
  | nil => simp
  | cons measure rest ih =>
      rw [List.forall_mem_cons] at finite
      have here : weighExactly values (.finite weighted, .finite total) measure =
          (.finite (weighted + gain values weight measure),
            .finite (total + counted values weight measure)) := by
        rw [weighExactly, gain, counted, finite.1]
        cases creditOf values measure with
        | none => simp
        | some credit => rfl
      rw [List.foldl_cons, here, ih finite.2]
      simp only [List.map_cons, List.sum_cons, add_assoc]

/-- The score of finite weights. -/
theorem exactScore_of_finite
    (finite : ∀ measure ∈ measures, measure.exactWeight = .finite (weight measure)) :
    exactScore values measures =
      if (measures.map (counted values weight)).sum = 0 then none
      else some (.finite (100 * (measures.map (gain values weight)).sum /
        (measures.map (counted values weight)).sum)) := by
  rw [exactScore, foldl_weighExactly finite, zero_add, zero_add]
  simp only [Exact.finite.injEq, Exact.mul_finite, Exact.div_finite]

theorem credit_bounds {answer : Value} {credit : ℚ} (given : answer.credit? = some credit) :
    0 ≤ credit ∧ credit ≤ 1 := by
  cases answer <;> cases given <;> norm_num

theorem creditOf_bounds {measure : Measure} {credit : ℚ}
    (given : creditOf values measure = some credit) : 0 ≤ credit ∧ credit ≤ 1 := by
  obtain ⟨answer, _, given⟩ := Option.bind_eq_some_iff.mp given
  exact credit_bounds given

variable {sign : ℚ}

theorem sign_gain_nonneg {measure : Measure} (positive : 0 < sign * weight measure) :
    0 ≤ sign * gain values weight measure := by
  rw [gain]
  cases given : creditOf values measure with
  | none => simp
  | some credit =>
      have bounds := (creditOf_bounds given).1
      calc
        0 ≤ credit * (sign * weight measure) := mul_nonneg bounds positive.le
        _ = sign * (credit * weight measure) := by ring

theorem sign_gain_le_counted {measure : Measure} (positive : 0 < sign * weight measure) :
    sign * gain values weight measure ≤ sign * counted values weight measure := by
  rw [gain, counted]
  cases given : creditOf values measure with
  | none => exact le_refl _
  | some credit =>
      have bounds := (creditOf_bounds given).2
      calc
        sign * (credit * weight measure) = credit * (sign * weight measure) := by ring
        _ ≤ 1 * (sign * weight measure) := mul_le_mul_of_nonneg_right bounds positive.le
        _ = sign * weight measure := one_mul _

theorem sign_counted_nonneg {measure : Measure} (positive : 0 < sign * weight measure) :
    0 ≤ sign * counted values weight measure := by
  have gains : 0 ≤ sign * gain values weight measure := sign_gain_nonneg positive
  exact gains.trans (sign_gain_le_counted positive)

variable (positive : ∀ measure ∈ measures, 0 < sign * weight measure)

include positive

theorem sum_gain_nonneg : 0 ≤ sign * (measures.map (gain values weight)).sum := by
  rw [← List.sum_map_mul_left]
  apply List.sum_nonneg
  intro term member
  obtain ⟨measure, inside, rfl⟩ := List.mem_map.mp member
  exact sign_gain_nonneg (positive measure inside)

theorem sum_gain_le_counted : sign * (measures.map (gain values weight)).sum ≤
    sign * (measures.map (counted values weight)).sum := by
  rw [← List.sum_map_mul_left, ← List.sum_map_mul_left]
  exact List.sum_le_sum fun measure inside => sign_gain_le_counted (positive measure inside)

/-- An answer that counts makes the total count. -/
theorem sum_counted_pos {measure : Measure} (inside : measure ∈ measures) {credit : ℚ}
    (given : creditOf values measure = some credit) :
    0 < sign * (measures.map (counted values weight)).sum := by
  rw [← List.sum_map_mul_left]
  have here : sign * counted values weight measure = sign * weight measure := by
    rw [counted, given]
    rfl
  refine (positive measure inside).trans_le (here ▸ List.single_le_sum ?_ _
    (List.mem_map_of_mem inside))
  intro term member
  obtain ⟨other, inside', rfl⟩ := List.mem_map.mp member
  exact sign_counted_nonneg (positive other inside')

end Sums

section OneSign

variable {values : Nat → Option Value} {measures : List Measure} {weight : Measure → ℚ} {sign : ℚ}

/-- Up to the sign of the weights, the score is the share of the credit. -/
theorem exactScore_eq_share
    (finite : ∀ measure ∈ measures, measure.exactWeight = .finite (weight measure))
    (positive : ∀ measure ∈ measures, 0 < sign * weight measure) {measure : Measure}
    (inside : measure ∈ measures) {credit : ℚ} (given : creditOf values measure = some credit) :
    exactScore values measures =
      some (.finite (100 * (sign * (measures.map (gain values weight)).sum) /
        (sign * (measures.map (counted values weight)).sum))) := by
  have total := sum_counted_pos positive inside given
  have signed : sign ≠ 0 := left_ne_zero_of_mul total.ne'
  have counts : (measures.map (counted values weight)).sum ≠ 0 := right_ne_zero_of_mul total.ne'
  rw [exactScore_of_finite finite, if_neg counts]
  congr 2
  field_simp

theorem inRange_of_oneSign
    (finite : ∀ measure ∈ measures, measure.exactWeight = .finite (weight measure))
    (positive : ∀ measure ∈ measures, 0 < sign * weight measure) : InRange values measures := by
  by_cases counts : ∃ measure ∈ measures, creditOf values measure ≠ none
  · obtain ⟨measure, inside, answered⟩ := counts
    obtain ⟨credit, given⟩ := Option.ne_none_iff_exists'.mp answered
    have total := sum_counted_pos positive inside given
    have low : 0 ≤ sign * (measures.map (gain values weight)).sum := sum_gain_nonneg positive
    have high : sign * (measures.map (gain values weight)).sum ≤
        sign * (measures.map (counted values weight)).sum := sum_gain_le_counted positive
    rw [InRange, exactScore_eq_share finite positive inside given]
    refine ⟨_, rfl, ?_, ?_⟩
    · exact div_nonneg (mul_nonneg (by norm_num) low) total.le
    · rw [div_le_iff₀ total]
      exact mul_le_mul_of_nonneg_left high (by norm_num)
  · have absent : ∀ measure ∈ measures, creditOf values measure = none := by
      simpa using counts
    have none : (measures.map (counted values weight)).sum = 0 := by
      apply List.sum_eq_zero
      intro term member
      obtain ⟨measure, inside, rfl⟩ := List.mem_map.mp member
      rw [counted, absent measure inside]
      rfl
    rw [InRange, exactScore_of_finite finite, if_pos none]
    exact absent

/-- Credits that rise leave what counts as it is. -/
theorem map_counted_of_credits {values' : Nat → Option Value}
    (raises : ∀ measure ∈ measures,
      Option.Rel (· ≤ ·) (creditOf values measure) (creditOf values' measure)) :
    measures.map (counted values' weight) = measures.map (counted values weight) := by
  refine List.map_congr_left fun measure inside => ?_
  have related := raises measure inside
  rw [counted, counted]
  generalize creditOf values measure = credit, creditOf values' measure = credit' at related ⊢
  cases related with
  | none => rfl
  | some _ => rfl

/-- Credits that rise raise what is gained. -/
theorem sum_gain_le_of_credits {values' : Nat → Option Value}
    (positive : ∀ measure ∈ measures, 0 < sign * weight measure)
    (raises : ∀ measure ∈ measures,
      Option.Rel (· ≤ ·) (creditOf values measure) (creditOf values' measure)) :
    sign * (measures.map (gain values weight)).sum ≤
      sign * (measures.map (gain values' weight)).sum := by
  rw [← List.sum_map_mul_left, ← List.sum_map_mul_left]
  refine List.sum_le_sum fun measure inside => ?_
  have related := raises measure inside
  rw [gain, gain]
  generalize creditOf values measure = credit, creditOf values' measure = credit' at related ⊢
  cases related with
  | none => exact le_refl _
  | @some low high le =>
      calc
        sign * (low * weight measure) = low * (sign * weight measure) := by ring
        _ ≤ high * (sign * weight measure) :=
          mul_le_mul_of_nonneg_right le (positive measure inside).le
        _ = sign * (high * weight measure) := by ring

/-- The answer of one measure is replaced. -/
theorem creditOf_update {measure other : Measure} {answer : Value} :
    creditOf (Function.update values measure.id (some answer)) other =
      if other.id = measure.id then answer.credit? else creditOf values other := by
  rw [creditOf, Function.update_apply]
  split
  · rfl
  · rfl

theorem noGreater_of_oneSign
    (finite : ∀ measure ∈ measures, measure.exactWeight = .finite (weight measure))
    (positive : ∀ measure ∈ measures, 0 < sign * weight measure) {measure : Measure}
    (inside : measure ∈ measures) {credit credit' : ℚ}
    (given : creditOf values measure = some credit) {answer : Value}
    (given' : answer.credit? = some credit') (better : credit ≤ credit') :
    NoGreater (exactScore values measures)
      (exactScore (Function.update values measure.id (some answer)) measures) := by
  have replaced : creditOf (Function.update values measure.id (some answer)) measure =
      some credit' := by
    rw [creditOf_update, if_pos rfl, given']
  have raises : ∀ other ∈ measures, Option.Rel (· ≤ ·) (creditOf values other)
      (creditOf (Function.update values measure.id (some answer)) other) := by
    intro other _
    rw [creditOf_update]
    split
    · rename_i alike
      have same : creditOf values other = some credit := by
        rw [creditOf, alike]
        exact given
      rw [given', same]
      exact .some better
    · cases creditOf values other with
      | none => exact .none
      | some value => exact .some (le_refl value)
  have total := sum_counted_pos positive inside given
  intro value first
  rw [exactScore_eq_share finite positive inside given] at first
  rw [exactScore_eq_share finite positive inside replaced, map_counted_of_credits raises]
  refine ⟨_, rfl, ?_⟩
  rw [← Exact.finite.inj (Option.some.inj first)]
  apply div_le_div_of_nonneg_right _ total.le
  exact mul_le_mul_of_nonneg_left (sum_gain_le_of_credits positive raises) (by norm_num)

theorem scoresWell_of_oneSign (signed : OneSign measures) : ScoresWell measures := by
  obtain ⟨sign, signed⟩ := signed
  have finite : ∀ measure ∈ measures,
      measure.exactWeight = .finite measure.exactWeight.value := by
    intro measure inside
    obtain ⟨weight, exact, _⟩ := signed measure inside
    rw [exact, Exact.value]
  have positive : ∀ measure ∈ measures, 0 < sign * measure.exactWeight.value := by
    intro measure inside
    obtain ⟨weight, exact, positive⟩ := signed measure inside
    rwa [exact, Exact.value]
  refine ⟨fun values => inRange_of_oneSign finite positive, ?_⟩
  intro values measure inside credit given answer credit' given' better
  exact noGreater_of_oneSign finite positive inside given given' better

end OneSign

/-! ## Weights that break the bounds -/

section Breaking

variable {measures : List Measure}

/-- Yes to the first measure, no to the second one, and no other answer. -/
def yesAndNo (first second : Measure) (key : Nat) : Option Value :=
  if key = first.id then some .yes else if key = second.id then some .no else none

theorem creditOf_yes (first second : Measure) : creditOf (yesAndNo first second) first = some 1 := by
  rw [creditOf, yesAndNo, if_pos rfl]
  rfl

theorem creditOf_no {first second : Measure} (apart : second.id ≠ first.id) :
    creditOf (yesAndNo first second) second = some 0 := by
  rw [creditOf, yesAndNo, if_neg apart, if_pos rfl]
  rfl

theorem creditOf_other {first second other : Measure} (apart : other.id ≠ first.id)
    (apart' : other.id ≠ second.id) : creditOf (yesAndNo first second) other = none := by
  rw [creditOf, yesAndNo, if_neg apart, if_neg apart']
  rfl

theorem foldl_weighExactly_unanswered {values : Nat → Option Value} {sums : Exact × Exact}
    (absent : ∀ measure ∈ measures, creditOf values measure = none) :
    measures.foldl (weighExactly values) sums = sums := by
  induction measures with
  | nil => rfl
  | cons measure rest ih =>
      rw [List.forall_mem_cons] at absent
      rw [List.foldl_cons, weighExactly, absent.1]
      exact ih absent.2

/-- One answer: its weight is divided by itself. -/
theorem exactScore_single (nodup : (measures.map Measure.id).Nodup) {measure : Measure}
    (inside : measure ∈ measures) :
    exactScore (yesAndNo measure measure) measures =
      if measure.exactWeight = .finite 0 then none
      else some (((Exact.finite 100).mul measure.exactWeight).div measure.exactWeight) := by
  obtain ⟨before, after, rfl⟩ := List.append_of_mem inside
  rw [List.map_append, List.map_cons, List.nodup_middle, List.nodup_cons, List.mem_append,
    not_or] at nodup
  have absent (others : List Measure) (apart : measure.id ∉ others.map Measure.id) :
      ∀ other ∈ others, creditOf (yesAndNo measure measure) other = none := by
    intro other member
    have different : other.id ≠ measure.id := fun same => apart (same ▸ List.mem_map_of_mem member)
    exact creditOf_other different different
  rw [exactScore, List.foldl_append, foldl_weighExactly_unanswered (absent before nodup.1.1),
    List.foldl_cons, weighExactly, creditOf_yes,
    foldl_weighExactly_unanswered (absent after nodup.1.2)]
  simp only [Exact.finite_one_mul, Exact.finite_zero_add]

/-- A weight that gives scores in range is finite, and not zero. -/
theorem exists_weight (nodup : (measures.map Measure.id).Nodup) (scores : ScoresWell measures)
    {measure : Measure} (inside : measure ∈ measures) :
    ∃ weight, measure.exactWeight = .finite weight ∧ weight ≠ 0 := by
  have range := scores.range (yesAndNo measure measure)
  rw [InRange, exactScore_single nodup inside] at range
  cases exact : measure.exactWeight with
  | finite weight =>
      refine ⟨weight, rfl, ?_⟩
      rintro rfl
      rw [exact, if_pos rfl] at range
      have absent := range measure inside
      rw [creditOf_yes] at absent
      cases absent
  | infinite negative =>
      rw [exact, if_neg (by simp)] at range
      obtain ⟨value, number, _⟩ := range
      simp [Exact.mul, Exact.div] at number
  | nan =>
      rw [exact, if_neg (by simp)] at range
      obtain ⟨value, number, _⟩ := range
      cases number

/-- A sum over measures that counts two of them. -/
theorem sum_map_pair (nodup : (measures.map Measure.id).Nodup) {first second : Measure}
    (inside : first ∈ measures) (inside' : second ∈ measures) (apart : first ≠ second)
    {term : Measure → ℚ}
    (none : ∀ other, other.id ≠ first.id → other.id ≠ second.id → term other = 0) :
    (measures.map term).sum = term first + term second := by
  classical
  have placed := List.perm_cons_erase inside
  have rest := List.perm_cons_erase ((List.mem_erase_of_ne apart.symm).mpr inside')
  have same := placed.trans (rest.cons first)
  rw [(same.map term).sum_eq, List.map_cons, List.map_cons, List.sum_cons, List.sum_cons]
  rw [(same.map Measure.id).nodup_iff, List.map_cons, List.map_cons, List.nodup_cons,
    List.nodup_cons, List.mem_cons, not_or] at nodup
  have others : (((measures.erase first).erase second).map term).sum = 0 := by
    apply List.sum_eq_zero
    intro value member
    obtain ⟨other, listed, rfl⟩ := List.mem_map.mp member
    apply none
    · exact fun alike => nodup.1.2 (alike ▸ List.mem_map_of_mem listed)
    · exact fun alike => nodup.2.1 (alike ▸ List.mem_map_of_mem listed)
  rw [others, add_zero]

/-- Of two weights of opposite signs, the one that outweighs the other gives
more than a hundred. -/
theorem not_inRange_of_opposite (nodup : (measures.map Measure.id).Nodup) {weight : Measure → ℚ}
    (finite : ∀ measure ∈ measures, measure.exactWeight = .finite (weight measure))
    {first second : Measure} (inside : first ∈ measures) (inside' : second ∈ measures)
    (apart : second.id ≠ first.id) (opposite : weight first * weight second < 0)
    (outweighs : 0 ≤ weight first * (weight first + weight second)) :
    ¬ InRange (yesAndNo first second) measures := by
  have different : first ≠ second := fun same => apart (same ▸ rfl)
  have gains : (measures.map (gain (yesAndNo first second) weight)).sum = weight first := by
    rw [sum_map_pair nodup inside inside' different, gain, gain, creditOf_yes, creditOf_no apart]
    · simp
    · intro other apart apart'
      rw [gain, creditOf_other apart apart']
      rfl
  have counts : (measures.map (counted (yesAndNo first second) weight)).sum =
      weight first + weight second := by
    rw [sum_map_pair nodup inside inside' different, counted, counted, creditOf_yes,
      creditOf_no apart]
    · rfl
    · intro other apart apart'
      rw [counted, creditOf_other apart apart']
      rfl
  rw [InRange, exactScore_of_finite finite, gains, counts]
  split_ifs with balanced
  · intro absent
    have answered := absent first inside
    rw [creditOf_yes] at answered
    cases answered
  · rintro ⟨value, number, _, bounded⟩
    rw [← Exact.finite.inj number] at bounded
    -- the total has the sign of the first weight, and the second one lowers it
    have square : 0 < (weight first + weight second) * (weight first + weight second) :=
      mul_self_pos.mpr balanced
    have share : 100 * weight first / (weight first + weight second) =
        100 * (weight first * (weight first + weight second)) /
          ((weight first + weight second) * (weight first + weight second)) := by
      field_simp
    rw [share, div_le_iff₀ square] at bounded
    have held : 0 ≤ weight second * (weight first + weight second) := by linarith
    have both : 0 ≤ weight first * weight second *
        ((weight first + weight second) * (weight first + weight second)) := by
      have product := mul_nonneg outweighs held
      linarith
    exact absurd (nonneg_of_mul_nonneg_left both square) (not_le.mpr opposite)

theorem oneSign_of_scoresWell (nodup : (measures.map Measure.id).Nodup)
    (scores : ScoresWell measures) : OneSign measures := by
  have finite : ∀ measure ∈ measures,
      measure.exactWeight = .finite measure.exactWeight.value := by
    intro measure inside
    obtain ⟨weight, exact, _⟩ := exists_weight nodup scores inside
    rw [exact, Exact.value]
  have nonzero : ∀ measure ∈ measures, measure.exactWeight.value ≠ 0 := by
    intro measure inside
    obtain ⟨weight, exact, nonzero⟩ := exists_weight nodup scores inside
    rwa [exact, Exact.value]
  cases measures with
  | nil => exact ⟨1, fun _ absent => (List.not_mem_nil absent).elim⟩
  | cons first rest =>
      have inside : first ∈ first :: rest := List.mem_cons_self
      refine ⟨first.exactWeight.value, fun measure inside' => ⟨_, finite measure inside', ?_⟩⟩
      by_contra against
      have opposite : first.exactWeight.value * measure.exactWeight.value < 0 :=
        lt_of_le_of_ne (not_lt.mp against) (mul_ne_zero (nonzero _ inside) (nonzero _ inside'))
      have apart : measure.id ≠ first.id := by
        intro alike
        rw [List.inj_on_of_nodup_map nodup inside' inside alike] at opposite
        exact absurd (mul_self_nonneg _) (not_le.mpr opposite)
      have square := mul_self_nonneg (first.exactWeight.value + measure.exactWeight.value)
      rw [add_mul] at square
      rcases le_total 0
        (first.exactWeight.value * (first.exactWeight.value + measure.exactWeight.value)) with
        outweighs | outweighed
      · exact not_inRange_of_opposite nodup finite inside inside' apart opposite outweighs
          (scores.range _)
      · refine not_inRange_of_opposite nodup finite inside' inside apart.symm ?_ ?_
          (scores.range _)
        · rwa [mul_comm]
        · rw [add_comm measure.exactWeight.value]
          linarith

/-- Measures score well exactly when their weights are finite and of one sign. -/
theorem scoresWell_iff (nodup : (measures.map Measure.id).Nodup) :
    ScoresWell measures ↔ OneSign measures :=
  ⟨oneSign_of_scoresWell nodup, scoresWell_of_oneSign⟩

end Breaking

end RssiService.Assessments
