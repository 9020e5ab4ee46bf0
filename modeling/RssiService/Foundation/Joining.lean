import Mathlib.Data.List.Basic

/-!
# Parts joined by a separator

Joining parts forgets where a part ends when the separator stands in a part.
Two lists of parts are joined into one text exactly when cutting all their
parts at the separator gives the same pieces.
-/

namespace Foundation.Joining

variable {α : Type*} {separator : α} {parts others : List (List α)}

theorem intercalate_ne_nil (full : [] ∉ parts) (nonempty : parts ≠ []) :
    [separator].intercalate parts ≠ [] := by
  cases parts with
  | nil => exact absurd rfl nonempty
  | cons part parts =>
      have present : part ≠ [] := fun empty => full (empty ▸ List.mem_cons_self)
      cases parts with
      | nil => rwa [List.intercalate_singleton]
      | cons next rest =>
          rw [List.intercalate_cons_cons, List.append_assoc]
          exact List.append_ne_nil_of_left_ne_nil present _

variable [DecidableEq α]

/-- The parts, each cut at the separators it holds. -/
def pieces (separator : α) (parts : List (List α)) : List (List α) :=
  parts.flatMap (List.splitOn separator)

@[simp] theorem pieces_cons (part : List α) :
    pieces separator (part :: parts) = part.splitOn separator ++ pieces separator parts :=
  List.flatMap_cons

/-- Cutting the joined text gives the pieces. -/
theorem splitOn_intercalate_eq_pieces (nonempty : parts ≠ []) :
    ([separator].intercalate parts).splitOn separator = pieces separator parts := by
  induction parts with
  | nil => exact absurd rfl nonempty
  | cons part parts ih =>
      cases parts with
      | nil => simp [pieces]
      | cons next rest =>
          rw [List.intercalate_cons_cons, List.append_assoc, List.singleton_append,
            List.splitOn_append_cons_self, ih (List.cons_ne_nil next rest)]
          exact (pieces_cons part).symm

theorem splitOn_injective (separator : α) :
    Function.Injective fun text : List α => text.splitOn separator := by
  intro text other same
  have cut : text.splitOn separator = other.splitOn separator := same
  have joined := congrArg [separator].intercalate cut
  rwa [List.intercalate_splitOn, List.intercalate_splitOn] at joined

theorem pieces_eq_nil_iff : pieces separator parts = [] ↔ parts = [] := by
  cases parts with
  | nil => exact iff_of_true rfl rfl
  | cons part parts =>
      refine iff_of_false ?_ (List.cons_ne_nil part parts)
      rw [pieces_cons]
      exact List.append_ne_nil_of_left_ne_nil (List.splitOn_ne_nil separator part) _

/-- Two lists of parts give one text when they give the same pieces. -/
theorem intercalate_eq_iff (full : [] ∉ parts) (full' : [] ∉ others) :
    [separator].intercalate parts = [separator].intercalate others ↔
      pieces separator parts = pieces separator others := by
  by_cases empty : parts = []
  · -- no part gives the empty text, and some part gives a text
    subst empty
    rw [eq_comm, eq_comm (a := pieces separator [])]
    by_cases empty' : others = []
    · rw [empty']
      exact iff_of_true rfl rfl
    · exact iff_of_false (intercalate_ne_nil full' empty')
        (fun same => empty' (pieces_eq_nil_iff.mp same))
  · by_cases empty' : others = []
    · subst empty'
      exact iff_of_false (intercalate_ne_nil full empty)
        (fun same => empty (pieces_eq_nil_iff.mp same))
    · rw [← splitOn_intercalate_eq_pieces empty, ← splitOn_intercalate_eq_pieces empty']
      exact (splitOn_injective separator).eq_iff.symm

end Foundation.Joining
