import Mathlib.Algebra.BigOperators.Group.Finset.Piecewise
import Mathlib.Algebra.GroupWithZero.Nat
import Mathlib.Algebra.Order.BigOperators.Group.List
import Mathlib.Algebra.Order.Group.Nat
import Mathlib.Data.List.Dedup
import Mathlib.Data.List.Forall2

/-!
# Counting by rows

Several counts over one list are summed row by row: two families of predicates
that hold equally often of each row have equal total counts.
-/

namespace Foundation

variable {Row : Type*}

theorem sum_map_ite (predicates : List (Row → Bool)) (row : Row) :
    (predicates.map fun predicate => if predicate row = true then 1 else 0).sum =
      predicates.countP fun predicate => predicate row := by
  induction predicates with
  | nil => rfl
  | cons predicate others ih =>
      rw [List.map_cons, List.sum_cons, List.countP_cons, ih, add_comm]

/-- Counting by predicate or by row gives the same total. -/
theorem sum_countP_comm (rows : List Row) (predicates : List (Row → Bool)) :
    (predicates.map fun predicate => rows.countP predicate).sum =
      (rows.map fun row => predicates.countP fun predicate => predicate row).sum := by
  induction rows with
  | nil => simp
  | cons row rest ih =>
      simp only [List.countP_cons, List.sum_map_add, List.map_cons, List.sum_cons, ih]
      rw [sum_map_ite, add_comm]

/-- Families that hold equally often of every row count equally often. -/
theorem sum_countP_congr (rows : List Row) (first second : List (Row → Bool))
    (same : ∀ row ∈ rows, (first.countP fun predicate => predicate row) =
      second.countP fun predicate => predicate row) :
    (first.map fun predicate => rows.countP predicate).sum =
      (second.map fun predicate => rows.countP predicate).sum := by
  rw [sum_countP_comm, sum_countP_comm, List.map_congr_left same]

theorem countP_eq_sum (rows : List Row) (selected : Row → Bool) :
    rows.countP selected = (rows.map fun row => if selected row = true then 1 else 0).sum := by
  induction rows with
  | nil => rfl
  | cons row rest ih => rw [List.countP_cons, List.map_cons, List.sum_cons, ih, add_comm]

/-- Of two sums with one below the other row by row, both are equal exactly where
they agree on every row. -/
theorem sum_map_eq_iff {rows : List Row} {first second : Row → Nat}
    (le : ∀ row ∈ rows, first row ≤ second row) :
    (rows.map first).sum = (rows.map second).sum ↔ ∀ row ∈ rows, first row = second row := by
  induction rows with
  | nil => simp
  | cons row rest ih =>
      rw [List.forall_mem_cons] at le ⊢
      have later : (rest.map first).sum ≤ (rest.map second).sum := List.sum_le_sum le.2
      rw [← ih le.2]
      simp only [List.map_cons, List.sum_cons]
      omega

/-- Of two conditions with one implying the other, both count the same exactly where they
hold of the same rows. -/
theorem countP_eq_iff_of_imp {rows : List Row} {first second : Row → Bool}
    (implies : ∀ row ∈ rows, first row = true → second row = true) :
    rows.countP first = rows.countP second ↔
      ∀ row ∈ rows, second row = true → first row = true := by
  rw [countP_eq_sum, countP_eq_sum, sum_map_eq_iff]
  · refine forall₂_congr fun row inside => ?_
    have forth := implies row inside
    revert forth
    cases first row <;> cases second row <;> simp
  · intro row inside
    have forth := implies row inside
    revert forth
    cases first row <;> cases second row <;> simp

/-- A sum over the rows, group by group. -/
theorem sum_map_eq_sum_groups {Key : Type*} [DecidableEq Key] {rows : List Row}
    (weight : Row → Nat) (key : Row → Key) (keys : Finset Key)
    (covers : ∀ row ∈ rows, key row ∈ keys) :
    (rows.map weight).sum =
      ∑ group ∈ keys, (rows.map fun row => if key row = group then weight row else 0).sum := by
  induction rows with
  | nil => simp
  | cons row rest ih =>
      have inside := covers row List.mem_cons_self
      simp only [List.map_cons, List.sum_cons, Finset.sum_add_distrib]
      rw [ih fun other member => covers other (List.mem_cons_of_mem row member)]
      rw [Finset.sum_ite_eq keys (key row) fun _ => weight row, if_pos inside]

/-- A count over the rows, group by group. -/
theorem countP_eq_sum_groups {Key : Type*} [DecidableEq Key] {rows : List Row}
    (selected : Row → Bool) (key : Row → Key) (keys : Finset Key)
    (covers : ∀ row ∈ rows, key row ∈ keys) :
    rows.countP selected =
      ∑ group ∈ keys, rows.countP fun row => selected row && key row = group := by
  rw [countP_eq_sum, sum_map_eq_sum_groups _ key keys covers]
  refine Finset.sum_congr rfl fun group _ => ?_
  rw [countP_eq_sum]
  refine congrArg List.sum (List.map_congr_left fun row _ => ?_)
  by_cases same : key row = group <;> simp [same]

/-- Two amounts for each group differ in total by the excesses on both sides. -/
theorem sum_add_excess {Key : Type*} (keys : Finset Key) (first second : Key → Nat) :
    (∑ group ∈ keys, first group) + ∑ group ∈ keys, (second group - first group) =
      (∑ group ∈ keys, second group) + ∑ group ∈ keys, (first group - second group) := by
  rw [← Finset.sum_add_distrib, ← Finset.sum_add_distrib]
  refine Finset.sum_congr rfl fun group _ => ?_
  omega

/-- Two lists without repetition have as many elements of each other. -/
theorem countP_mem_comm {Key : Type*} [DecidableEq Key] {first second : List Key}
    (nodup_first : first.Nodup) (nodup_second : second.Nodup) :
    (first.countP fun key => key ∈ second) = second.countP fun key => key ∈ first := by
  rw [List.countP_eq_length_filter, List.countP_eq_length_filter]
  refine List.Perm.length_eq ?_
  refine (List.perm_ext_iff_of_nodup (nodup_first.filter _) (nodup_second.filter _)).mpr ?_
  intro key
  rw [List.mem_filter, List.mem_filter, decide_eq_true_iff, decide_eq_true_iff, and_comm]

/-- What each of two lists lacks of the other makes up their difference. -/
theorem length_add_countP_notMem {Key : Type*} [DecidableEq Key] {first second : List Key}
    (nodup_first : first.Nodup) (nodup_second : second.Nodup) :
    first.length + (second.countP fun key => key ∉ first) =
      second.length + first.countP fun key => key ∉ second := by
  have split (left right : List Key) : left.length =
      (left.countP fun key => key ∈ right) + left.countP fun key => key ∉ right := by
    have counted := List.length_eq_countP_add_countP (fun key => decide (key ∈ right)) (l := left)
    simpa only [decide_eq_true_eq] using counted
  have common := countP_mem_comm nodup_first nodup_second
  have whole := split first second
  have other := split second first
  omega

theorem countP_split (rows : List Row) (counted other : Row → Bool) :
    rows.countP counted = (rows.countP fun row => counted row && other row) +
      rows.countP fun row => counted row && !other row := by
  rw [List.countP_eq_countP_filter_add rows counted other, List.countP_filter, List.countP_filter]

/-! ## At most one -/

theorem countP_le_one_iff {rows : List Row} {counted : Row → Bool} :
    rows.countP counted ≤ 1 ↔
      rows.Pairwise fun first second => ¬(counted first = true ∧ counted second = true) := by
  induction rows with
  | nil => simp
  | cons row rest ih =>
      rw [List.pairwise_cons, ← ih, List.countP_cons]
      by_cases here : counted row = true
      · have none : rest.countP counted = 0 ↔ ∀ other ∈ rest, ¬(counted row = true ∧
            counted other = true) := by
          rw [List.countP_eq_zero]
          exact forall₂_congr fun other _ => (not_congr (and_iff_right here)).symm
        rw [if_pos here, ← none]
        omega
      · rw [if_neg here, Nat.add_zero, and_iff_right fun other _ both => here both.1]

/-- Of rows that are added at most one counts, and only where none counted before. -/
theorem countP_append_le_one_iff {first second : List Row} {counted : Row → Bool} :
    (first ++ second).countP counted ≤ 1 ↔
      first.countP counted ≤ 1 ∧ second.countP counted ≤ 1 ∧
        (0 < second.countP counted → first.countP counted = 0) := by
  rw [List.countP_append]
  omega

/-! ## Distinct values -/

section Distinct

variable {Value : Type*} [DecidableEq Value]

/-- A list has as many distinct values as entries when no value is listed twice. -/
theorem length_dedup_eq_iff {values : List Value} :
    values.dedup.length = values.length ↔ values.Nodup := by
  rw [← List.dedup_eq_self]
  exact ⟨(List.dedup_sublist values).eq_of_length, congrArg List.length⟩

/-- What is distinct in a list is distinct in a part of it. -/
theorem length_dedup_map_filter {key : Row → Value} {rows : List Row}
    (nodup : (rows.map key).Nodup) (selected : Row → Bool) :
    ((rows.filter selected).map key).dedup.length = (rows.filter selected).length := by
  rw [length_dedup_eq_iff.mpr (nodup.sublist (List.filter_sublist.map key)), List.length_map]

end Distinct

/-! ## Lists in step -/

section InStep

variable {Other : Type*} {R : Row → Other → Prop} {first : List Row} {second : List Other}

theorem countP_of_forall₂ (counted : Row → Bool) (seen : Other → Bool)
    (agree : ∀ row other, R row other → seen other = counted row)
    (related : List.Forall₂ R first second) : second.countP seen = first.countP counted := by
  induction related with
  | nil => rfl
  | cons head tail ih => rw [List.countP_cons, List.countP_cons, ih, agree _ _ head]

theorem exists_left_of_forall₂ (related : List.Forall₂ R first second) {other : Other}
    (listed : other ∈ second) : ∃ row ∈ first, R row other := by
  induction related with
  | nil => exact absurd listed List.not_mem_nil
  | cons head tail ih =>
      rcases List.mem_cons.mp listed with rfl | later
      · exact ⟨_, List.mem_cons_self, head⟩
      · obtain ⟨row, inside, stands⟩ := ih later
        exact ⟨row, List.mem_cons_of_mem _ inside, stands⟩

theorem exists_right_of_forall₂ (related : List.Forall₂ R first second) {row : Row}
    (listed : row ∈ first) : ∃ other ∈ second, R row other :=
  exists_left_of_forall₂ related.flip listed

theorem map_eq_of_forall₂ {Value : Type*} (related : List.Forall₂ R first second)
    {view : Row → Value} {other : Other → Value}
    (same : ∀ row entry, R row entry → view row = other entry) :
    first.map view = second.map other := by
  induction related with
  | nil => rfl
  | cons here _ ih => rw [List.map_cons, List.map_cons, same _ _ here, ih]

end InStep

end Foundation
