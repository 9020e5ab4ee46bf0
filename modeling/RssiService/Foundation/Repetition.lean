import RssiService.Foundation.Table

/-!
# Writes that can be repeated

A write leaves a mark of its own: what it wrote is there, until a write that is
not apart from it.  Where the mark is there already, the write changes nothing.  A
run of writes that are apart from one another leaves all the marks, so the same run
once more changes nothing.
-/

namespace Foundation

namespace Repetition

variable {State Item : Type} {step : State → Item → State} {Mark : Item → State → Prop}
  {Apart : Item → Item → Prop} {items : List Item}

/-- A mark outlives the writes that are apart from it. -/
theorem mark_foldl {item : Item}
    (kept : ∀ state, ∀ other ∈ items, Mark item state → Mark item (step state other))
    {state : State} (mark : Mark item state) : Mark item (items.foldl step state) := by
  induction items generalizing state with
  | nil => exact mark
  | cons other rest ih =>
      have here := kept state other List.mem_cons_self mark
      exact ih (fun state later listed => kept state later (List.mem_cons_of_mem _ listed)) here

/-- A run of writes that are apart leaves all their marks. -/
theorem marks_foldl (made : ∀ state, ∀ item ∈ items, Mark item (step state item))
    (kept : ∀ item other, Apart item other →
      ∀ state, Mark item state → Mark item (step state other))
    (apart : items.Pairwise Apart) (state : State) :
    ∀ item ∈ items, Mark item (items.foldl step state) := by
  induction items generalizing state with
  | nil => exact fun item absent => absurd absent List.not_mem_nil
  | cons item rest ih =>
      obtain ⟨first, later⟩ := List.pairwise_cons.mp apart
      refine List.forall_mem_cons.mpr ⟨?_, ?_⟩
      · exact mark_foldl (fun state other listed => kept item other (first other listed) state)
          (made state item List.mem_cons_self)
      · exact ih (fun state other listed => made state other (List.mem_cons_of_mem _ listed)) later
          (step state item)

/-- Where all the marks are there, the run changes nothing. -/
theorem foldl_eq_self (same : ∀ state item, Mark item state → step state item = state)
    {state : State} (marks : ∀ item ∈ items, Mark item state) : items.foldl step state = state := by
  induction items with
  | nil => rfl
  | cons item rest ih =>
      obtain ⟨first, later⟩ := List.forall_mem_cons.mp marks
      rw [List.foldl_cons, same state item first]
      exact ih later

end Repetition

/-! ## Tables -/

namespace Table

variable {Row : Type*} [Identified Row] {table : Table Row} {selected sought : Row → Bool}
  {change : Row → Row} {keeps : ∀ row, ident (change row) = ident row} {build : Nat → Row}
  {ident_build : ∀ key, ident (build key) = key}

/-- A search that sees neither the row that is written nor the one it replaces. -/
theorem search_updateOrCreate_of_unseen
    (before : ∀ row, selected row = true → sought row = false)
    (after : ∀ row, selected row = true → sought (change row) = false)
    (built : ∀ key, sought (build key) = false) :
    (table.updateOrCreate selected change keeps build ident_build).rows.find? sought =
      table.rows.find? sought := by
  rw [← List.head?_filter, ← List.head?_filter]
  exact congrArg List.head? (filter_updateOrCreate before after built)

/-- Writing what is there changes nothing. -/
theorem updateOrCreate_eq_self {row : Row} (found : table.rows.find? selected = some row)
    (same : change row = row) :
    table.updateOrCreate selected change keeps build ident_build = table := by
  rw [updateOrCreate_of_some found, modify_eq_self_iff]
  intro other known
  have inside : row ∈ table := List.mem_of_find?_eq_some found
  rwa [ident_injective (mem_of_find? known) inside (ident_of_find? known)]

/-- A write makes a row when none is selected. -/
theorem length_updateOrCreate :
    (table.updateOrCreate selected change keeps build ident_build).rows.length =
      table.rows.length + if (table.rows.find? selected).isNone then 1 else 0 := by
  cases found : table.rows.find? selected with
  | none =>
      rw [updateOrCreate_of_none found]
      exact List.length_append
  | some row =>
      rw [updateOrCreate_of_some found]
      exact List.length_map _

end Table

end Foundation
