import Mathlib.Algebra.BigOperators.Group.List.Basic
import Mathlib.Data.List.Sort
import Mathlib.Order.Monotone.Basic

/-!
# Sums weighted by rank

Numbers are taken from the greatest to the least, and each one counts by its
rank.  Taking some of them away, or lowering some, shifts the ranks of the
others, and the sum still does not rise: at every rank stands a number that is
no greater than the one before.
-/

namespace Foundation.RankedSum

/-! ## Descending lists -/

section Descending

variable {α : Type*} [LinearOrder α] {xs ys zs : List α}

/-- The numbers from the greatest to the least. -/
def descending (xs : List α) : List α :=
  xs.insertionSort fun first second => second ≤ first

theorem perm_descending (xs : List α) : (descending xs).Perm xs :=
  List.perm_insertionSort _ xs

theorem pairwise_descending (xs : List α) :
    (descending xs).Pairwise fun first second => second ≤ first :=
  List.pairwise_insertionSort _ xs

/-- The order in which the numbers come does not matter. -/
theorem descending_eq_of_perm (same : xs.Perm ys) : descending xs = descending ys :=
  ((perm_descending xs).trans (same.trans (perm_descending ys).symm)).eq_of_pairwise
    (fun _ _ _ _ first second => le_antisymm second first)
    (pairwise_descending xs) (pairwise_descending ys)

/-- Every bound is reached by no more numbers of the first list. -/
def Below (ys xs : List α) : Prop :=
  ∀ bound, ys.countP (fun y => decide (bound ≤ y)) ≤ xs.countP (fun x => decide (bound ≤ x))

theorem below_of_sublist (sublist : ys.Sublist xs) : Below ys xs :=
  fun _ => sublist.countP_le

theorem below_of_perm (same : ys.Perm xs) : Below ys xs :=
  fun _ => (same.countP_eq _).le

theorem Below.trans (first : Below zs ys) (second : Below ys xs) : Below zs xs :=
  fun bound => (first bound).trans (second bound)

/-- Lowering the values of a list. -/
theorem below_map {β : Type*} {entries : List β} {lower upper : β → α}
    (le : ∀ entry ∈ entries, lower entry ≤ upper entry) :
    Below (entries.map lower) (entries.map upper) := by
  intro bound
  rw [List.countP_map, List.countP_map]
  apply List.countP_mono_left
  intro entry member reached
  have reaches : bound ≤ lower entry := by simpa using reached
  simpa using reaches.trans (le entry member)

/-- At every rank of the first list stands a greater number of the second. -/
inductive Covered : List α → List α → Prop
  | nil (xs : List α) : Covered [] xs
  | cons {x y : α} {xs ys : List α} : y ≤ x → Covered ys xs → Covered (y :: ys) (x :: xs)

/-- Among descending lists, reaching each bound less often is to be lower at
each rank. -/
theorem covered_of_below (below : Below ys xs)
    (lower : ys.Pairwise fun first second => second ≤ first)
    (upper : xs.Pairwise fun first second => second ≤ first) : Covered ys xs := by
  induction ys generalizing xs with
  | nil => exact .nil xs
  | cons y ys ih =>
      cases xs with
      | nil =>
          -- the bound `y` is reached once more than it can be
          have reached := below y
          simp at reached
      | cons x xs =>
          rw [List.pairwise_cons] at lower upper
          have greatest : y ≤ x := by
            by_contra above
            have unreached : (x :: xs).countP (fun x => decide (y ≤ x)) = 0 := by
              rw [List.countP_eq_zero]
              intro other member
              have least : other ≤ x := by
                rcases List.mem_cons.mp member with rfl | member
                · exact le_refl other
                · exact upper.1 other member
              simpa using least.trans_lt (not_le.mp above)
            have reached := below y
            rw [unreached] at reached
            simp at reached
          refine .cons greatest (ih ?_ lower.2 upper.2)
          intro bound
          by_cases reaches : bound ≤ y
          · have counted := below bound
            simpa [List.countP_cons, reaches, reaches.trans greatest] using counted
          · have unreached : ys.countP (fun y => decide (bound ≤ y)) = 0 := by
              rw [List.countP_eq_zero]
              intro other member
              simpa using (lower.1 other member).trans_lt (not_le.mp reaches)
            rw [unreached]
            exact Nat.zero_le _

theorem covered_descending (below : Below ys xs) : Covered (descending ys) (descending xs) := by
  refine covered_of_below ?_ (pairwise_descending ys) (pairwise_descending xs)
  exact ((below_of_perm (perm_descending ys)).trans below).trans
    (below_of_perm (perm_descending xs).symm)

end Descending

/-! ## Folds by rank -/

section Fold

variable {α β : Type*}

/-- Take the numbers one after the other, each one with its rank. -/
def foldRanked (step : ℕ → β → α → β) (rank : ℕ) (total : β) : List α → β
  | [] => total
  | x :: xs => foldRanked step (rank + 1) (step rank total x) xs

/-- Adding weighted numbers one by one gives their sum. -/
theorem foldRanked_add [AddMonoid β] (weighted : ℕ → α → β) (rank : ℕ) (total : β)
    (xs : List α) :
    foldRanked (fun rank total x => total + weighted rank x) rank total xs =
      total + ((xs.zipIdx rank).map fun entry => weighted entry.2 entry.1).sum := by
  induction xs generalizing rank total with
  | nil => simp [foldRanked]
  | cons x xs ih =>
      rw [foldRanked, ih, List.zipIdx_cons, List.map_cons, List.sum_cons, add_assoc]

/-- What each step keeps, at the rank it is taken, the fold keeps. -/
theorem foldRanked_induction_rank {step : ℕ → β → α → β} {motive : ℕ → β → Prop} {xs : List α}
    {rank : ℕ} {total : β} (start : motive rank total)
    (keeps : ∀ rank total, motive rank total →
      ∀ x ∈ xs, motive (rank + 1) (step rank total x)) :
    motive (rank + xs.length) (foldRanked step rank total xs) := by
  induction xs generalizing rank total with
  | nil => exact start
  | cons x xs ih =>
      rw [foldRanked, List.length_cons, Nat.add_comm xs.length, ← Nat.add_assoc]
      apply ih (keeps rank total start x List.mem_cons_self)
      intro rank total now other member
      exact keeps rank total now other (List.mem_cons_of_mem _ member)

/-- A fold keeps what each of its steps keeps. -/
theorem foldRanked_induction {step : ℕ → β → α → β} {motive : β → Prop} {xs : List α} {rank : ℕ}
    {total : β} (start : motive total)
    (keeps : ∀ rank total, motive total → ∀ x ∈ xs, motive (step rank total x)) :
    motive (foldRanked step rank total xs) :=
  foldRanked_induction_rank (motive := fun _ => motive) start keeps

variable [LinearOrder α] [Preorder β] {step : ℕ → β → α → β} {motive : β → Prop}
  {xs ys : List α} {rank : ℕ} {low high : β}

/-- Of two lists, the one that covers the other has the greater fold, when a
step raises the totals that steps can give. -/
theorem foldRanked_le (covered : Covered ys xs)
    (monotone : ∀ rank {low high : β} {y x : α}, low ≤ high → y ≤ x →
      step rank low y ≤ step rank high x)
    (settles : ∀ rank total x, motive (step rank total x))
    (rises : ∀ rank total, motive total → ∀ x ∈ xs, total ≤ step rank total x)
    (ready : motive high) (le : low ≤ high) :
    foldRanked step rank low ys ≤ foldRanked step rank high xs := by
  induction covered generalizing rank low high with
  | nil xs =>
      -- the numbers that are left only raise the total
      have raised : motive (foldRanked step rank high xs) ∧
          high ≤ foldRanked step rank high xs := by
        apply foldRanked_induction (motive := fun total => motive total ∧ high ≤ total)
          ⟨ready, le_refl high⟩
        rintro rank total ⟨ready, above⟩ x member
        exact ⟨settles rank total x, above.trans (rises rank total ready x member)⟩
      exact le.trans raised.2
  | cons lower covered ih =>
      rw [foldRanked, foldRanked]
      apply ih ?_ (settles _ _ _) (monotone rank le lower)
      intro rank total ready other member
      exact rises rank total ready other (List.mem_cons_of_mem _ member)

end Fold

end Foundation.RankedSum
