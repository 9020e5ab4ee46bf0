import Mathlib.Data.List.Sort
import RssiService.Foundation.Grouping

/-!
# The leading rows of an ordered list

A list is sorted by a key, rows with the same key stay in the order in which they come,
and the first rows are shown.
-/

namespace Foundation.Leading

variable {Row : Type*} {before : Row → Row → Prop} {rows : List Row} {count : Nat}

/-- A row is shown when fewer rows than are shown come before it. -/
theorem mem_take_iff_countP [DecidableRel before] (ordered : rows.Pairwise before)
    (asymm : ∀ first second, before first second → ¬before second first) {row : Row} :
    row ∈ rows.take count ↔
      row ∈ rows ∧ rows.countP (fun other => before other row) < count := by
  induction rows generalizing count with
  | nil => simp
  | cons first rest ih =>
      obtain ⟨leads, ordered⟩ := List.pairwise_cons.mp ordered
      have none : (first :: rest).countP (fun other => before other first) = 0 := by
        rw [List.countP_eq_zero]
        intro other member
        rw [decide_eq_true_eq]
        rcases List.mem_cons.mp member with rfl | later
        · exact fun itself => asymm _ _ itself itself
        · exact asymm _ _ (leads other later)
      cases count with
      | zero => simp
      | succ count =>
          have one_more : ∀ row ∈ rest, (first :: rest).countP (fun other => before other row) =
              rest.countP (fun other => before other row) + 1 :=
            fun row inside => List.countP_cons_of_pos (decide_eq_true (leads row inside))
          rw [List.take_succ_cons, List.mem_cons, List.mem_cons]
          constructor
          · rintro (rfl | later)
            · exact ⟨.inl rfl, none ▸ Nat.zero_lt_succ count⟩
            · obtain ⟨inside, few⟩ := (ih ordered).mp later
              rw [one_more row inside]
              exact ⟨.inr inside, Nat.succ_lt_succ few⟩
          · rintro ⟨rfl | inside, few⟩
            · exact .inl rfl
            · rw [one_more row inside] at few
              exact .inr ((ih ordered).mpr ⟨inside, Nat.lt_of_succ_lt_succ few⟩)

/-- What is shown comes before what is hidden. -/
theorem before_of_hidden (ordered : rows.Pairwise before) {shown hidden : Row}
    (first : shown ∈ rows.take count) (last : hidden ∈ rows.drop count) : before shown hidden := by
  rw [← List.take_append_drop count rows, List.pairwise_append] at ordered
  exact ordered.2.2 shown first hidden last

/-! ## Stable sorts -/

section Stable

variable {le tie : Row → Row → Prop}

/-- The order of the keys, and for equal keys another one. -/
def StableBefore (le tie : Row → Row → Prop) (first second : Row) : Prop :=
  le first second ∧ (le second first → tie first second)

instance [DecidableRel le] [DecidableRel tie] : DecidableRel (StableBefore le tie) :=
  fun first second => inferInstanceAs
    (Decidable (le first second ∧ (le second first → tie first second)))

theorem StableBefore.asymm (apart : ∀ first second, tie first second → ¬tie second first)
    (first second : Row) (forth : StableBefore le tie first second) :
    ¬StableBefore le tie second first :=
  fun back => apart _ _ (forth.2 back.1) (back.2 forth.1)

variable [DecidableRel le] [Std.Total le] [IsTrans Row le]

theorem pairwise_orderedInsert {row : Row} (ordered : rows.Pairwise (StableBefore le tie))
    (first : ∀ other ∈ rows, tie row other) :
    (rows.orderedInsert le row).Pairwise (StableBefore le tie) := by
  induction rows with
  | nil => exact List.pairwise_singleton _ row
  | cons head rest ih =>
      obtain ⟨leads, later⟩ := List.pairwise_cons.mp ordered
      rw [List.forall_mem_cons] at first
      rw [List.orderedInsert_cons]
      split
      · rename_i here
        refine List.pairwise_cons.mpr ⟨?_, ordered⟩
        rw [List.forall_mem_cons]
        exact ⟨⟨here, fun _ => first.1⟩, fun other inside =>
          ⟨trans_of le here (leads other inside).1, fun _ => first.2 other inside⟩⟩
      · rename_i after
        refine List.pairwise_cons.mpr ⟨?_, ih later first.2⟩
        intro other inside
        rcases (List.mem_orderedInsert le).mp inside with rfl | old
        · exact ⟨(Std.Total.total head other).resolve_right after, fun back => absurd back after⟩
        · exact leads other old

/-- Rows with the same key stay in their order. -/
theorem pairwise_insertionSort (ordered : rows.Pairwise tie) :
    (rows.insertionSort le).Pairwise (StableBefore le tie) := by
  induction rows with
  | nil => exact List.Pairwise.nil
  | cons row rest ih =>
      obtain ⟨first, later⟩ := List.pairwise_cons.mp ordered
      rw [List.insertionSort_cons]
      exact pairwise_orderedInsert (ih later) fun other inside =>
        first other ((List.mem_insertionSort le).mp inside)

end Stable

end Foundation.Leading
