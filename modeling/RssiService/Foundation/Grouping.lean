import Mathlib.Algebra.BigOperators.Group.List.Basic
import Mathlib.Data.List.Basic
import Mathlib.Data.List.Induction
import Mathlib.Data.List.Perm.Basic
import RssiService.Foundation.Counting

/-!
# Rows in groups

The rows of a list are grouped by a key.  The groups come in the order in which
their keys come first, and each row is in the group of its key.
-/

namespace Foundation.Grouping

variable {Row Key : Type*} [DecidableEq Key] {key : Row → Key} {rows : List Row} {group : Key}

/-- The keys of the rows, each where it comes first. -/
def keys (key : Row → Key) (rows : List Row) : List Key := (rows.map key).eraseDups

/-- The rows of one group, in their order. -/
def members (key : Row → Key) (rows : List Row) (group : Key) : List Row :=
  rows.filter fun row => key row = group

theorem mem_keys : group ∈ keys key rows ↔ ∃ row ∈ rows, key row = group := by
  rw [keys, List.mem_eraseDups, List.mem_map]

theorem mem_members {row : Row} : row ∈ members key rows group ↔ row ∈ rows ∧ key row = group := by
  rw [members, List.mem_filter, decide_eq_true_eq]

theorem members_ne_nil_iff : members key rows group ≠ [] ↔ group ∈ keys key rows := by
  rw [mem_keys]
  constructor
  · intro some_row
    obtain ⟨row, inside⟩ := List.exists_mem_of_ne_nil _ some_row
    exact ⟨row, mem_members.mp inside⟩
  · rintro ⟨row, found⟩
    exact List.ne_nil_of_mem (mem_members.mpr found)

/-- What holds of the rows once those of the first key are taken away holds of the rows. -/
theorem induction_groups (key : Row → Key) {motive : List Row → Prop} (nil : motive [])
    (cons : ∀ row rest, motive (rest.filter fun other => key other ≠ key row) →
      motive (row :: rest)) : ∀ rows, motive rows
  | [] => nil
  | row :: rest => cons row rest (induction_groups key nil cons _)
termination_by rows => rows.length
decreasing_by exact Nat.lt_succ_of_le (List.length_filter_le _ _)

/-- The first row, then the groups of the rows with another key. -/
theorem keys_cons (row : Row) (rest : List Row) :
    keys key (row :: rest) =
      key row :: keys key (rest.filter fun other => key other ≠ key row) := by
  rw [keys, List.map_cons, List.eraseDups_cons, keys, List.filter_map]
  congr 4
  funext other
  simp only [Function.comp_apply, ne_eq, decide_not]
  rfl

/-- Grouping takes the rows of other keys away together. -/
theorem members_cons_of_ne {row : Row} (rest : List Row) (apart : group ≠ key row) :
    members key (row :: rest) group =
      members key (rest.filter fun other => key other ≠ key row) group := by
  rw [members, members, List.filter_cons_of_neg (by simpa using apart.symm), List.filter_filter]
  refine List.filter_congr fun other _ => ?_
  by_cases same : key other = group
  · simp [same, apart]
  · simp [same]

theorem keys_sublist (key : Row → Key) (rows : List Row) :
    (keys key rows).Sublist (rows.map key) := by
  induction rows using induction_groups key with
  | nil => exact List.Sublist.refl _
  | cons row rest ih =>
      rw [keys_cons, List.map_cons]
      exact List.Sublist.cons_cons _ (ih.trans (List.filter_sublist.map key))

theorem nodup_keys (key : Row → Key) (rows : List Row) : (keys key rows).Nodup := by
  induction rows using induction_groups key with
  | nil => exact List.nodup_nil
  | cons row rest ih =>
      rw [keys_cons]
      refine List.nodup_cons.mpr ⟨?_, ih⟩
      rw [mem_keys]
      rintro ⟨other, inside, same⟩
      exact of_decide_eq_true (List.mem_filter.mp inside).2 same

/-- The groups together are the rows. -/
theorem flatMap_members_perm (key : Row → Key) (rows : List Row) :
    ((keys key rows).flatMap (members key rows)).Perm rows := by
  induction rows using induction_groups key with
  | nil => exact List.Perm.refl _
  | cons row rest ih =>
      let others := rest.filter fun other => key other ≠ key row
      have later : (keys key others).flatMap (members key (row :: rest)) =
          (keys key others).flatMap (members key others) := by
        refine List.flatMap_congr fun group listed => members_cons_of_ne rest ?_
        obtain ⟨other, inside, same⟩ := mem_keys.mp listed
        exact same ▸ of_decide_eq_true (List.mem_filter.mp inside).2
      have here : members key (row :: rest) (key row) =
          row :: rest.filter fun other => key other = key row := by
        rw [members, List.filter_cons_of_pos (by simp)]
      have split : (rest.filter (fun other => key other = key row) ++ others).Perm rest := by
        have parted := List.filter_append_perm (fun other => decide (key other = key row)) rest
        simpa only [others, ne_eq, decide_not] using parted
      rw [keys_cons, List.flatMap_cons, later, here, List.cons_append]
      exact ((List.Perm.append_left _ ih).trans split).cons row

/-- The sizes of the groups sum up to the number of rows. -/
theorem sum_length_members (key : Row → Key) (rows : List Row) :
    ((keys key rows).map fun group => (members key rows group).length).sum = rows.length := by
  rw [← (flatMap_members_perm key rows).length_eq, List.length_flatMap]

/-- Groups of ordered rows come in order. -/
theorem pairwise_keys {before : Key → Key → Prop}
    (ordered : rows.Pairwise fun first second => before (key first) (key second)) :
    (keys key rows).Pairwise before :=
  (List.pairwise_map.mpr ordered).sublist (keys_sublist key rows)

/-! ## Groups that a fold builds -/

section Fold

variable {Group : Type*} {name : Group → Key} {start : Row → Group} {more : Group → Row → Group}

/-- Add a row to the group of its key, or start a group. -/
def addTo (name : Group → Key) (key : Row → Key) (start : Row → Group) (more : Group → Row → Group)
    (groups : List Group) (row : Row) : List Group :=
  if groups.any fun group => name group = key row then
    groups.map fun group => if name group = key row then more group row else group
  else groups ++ [start row]

/-- A group is started by the first of its rows, and the others are added in their order. -/
structure Built (key : Row → Key) (name : Group → Key) (start : Row → Group)
    (more : Group → Row → Group) (rows : List Row) (value : Key) (group : Group) : Prop where
  named : name group = value
  built : ∃ first others, members key rows value = first :: others ∧
    group = others.foldl more (start first)

theorem keys_append_of_mem {row : Row} (known : key row ∈ keys key rows) :
    keys key (rows ++ [row]) = keys key rows := by
  rw [keys, List.mem_eraseDups, ← List.elem_iff] at known
  have gone : [key row].removeAll (rows.map key) = [] := by
    rw [List.removeAll, List.filter_cons_of_neg, List.filter_nil]
    rw [known]
    decide
  rw [keys, List.map_append, List.map_singleton, List.eraseDups_append, gone, List.eraseDups_nil,
    List.append_nil, keys]

theorem keys_append_of_notMem {row : Row} (fresh : key row ∉ keys key rows) :
    keys key (rows ++ [row]) = keys key rows ++ [key row] := by
  rw [keys, List.mem_eraseDups, ← List.elem_iff, Bool.not_eq_true] at fresh
  have stays : [key row].removeAll (rows.map key) = [key row] := by
    rw [List.removeAll, List.filter_cons_of_pos, List.filter_nil]
    rw [fresh]
    rfl
  rw [keys, List.map_append, List.map_singleton, List.eraseDups_append, stays, keys]
  rfl

theorem members_append (more : List Row) (value : Key) :
    members key (rows ++ more) value = members key rows value ++ members key more value :=
  List.filter_append ..

theorem members_singleton (row : Row) (value : Key) :
    members key [row] value = if key row = value then [row] else [] := by
  rw [members]
  split <;> simp_all

theorem Built.append_of_ne {value : Key} {group : Group}
    (built : Built key name start more rows value group) {row : Row} (other : value ≠ key row) :
    Built key name start more (rows ++ [row]) value group := by
  refine ⟨built.named, ?_⟩
  rw [members_append, members_singleton, if_neg other.symm, List.append_nil]
  exact built.built

theorem Built.append {value : Key} {group : Group}
    (named_more : ∀ group row, name (more group row) = name group)
    (built : Built key name start more rows value group) {row : Row} (same : key row = value) :
    Built key name start more (rows ++ [row]) value (more group row) := by
  obtain ⟨first, others, rows_eq, rfl⟩ := built.built
  refine ⟨(named_more _ _).trans built.named, first, others ++ [row], ?_, ?_⟩
  · rw [members_append, rows_eq, members_singleton, if_pos same]
    rfl
  · rw [List.foldl_append]
    rfl

theorem built_start (named_start : ∀ row, name (start row) = key row) {row : Row}
    (fresh : key row ∉ keys key rows) :
    Built key name start more (rows ++ [row]) (key row) (start row) := by
  refine ⟨named_start row, row, [], ?_, rfl⟩
  have first : members key rows (key row) = [] := by
    by_contra some_row
    exact fresh (members_ne_nil_iff.mp some_row)
  rw [members_append, first, members_singleton, if_pos rfl]
  rfl

/-- The groups of a fold are those of the keys, in their order. -/
theorem built_foldl_addTo (named_start : ∀ row, name (start row) = key row)
    (named_more : ∀ group row, name (more group row) = name group) (rows : List Row) :
    List.Forall₂ (Built key name start more rows) (keys key rows)
      (rows.foldl (addTo name key start more) []) := by
  induction rows using List.reverseRecOn with
  | nil => exact .nil
  | append_singleton rows row ih =>
      rw [List.foldl_append, List.foldl_cons, List.foldl_nil, addTo]
      by_cases known : key row ∈ keys key rows
      · obtain ⟨group, listed, built⟩ := exists_right_of_forall₂ ih known
        rw [keys_append_of_mem known, if_pos (List.any_eq_true.mpr
          ⟨group, listed, decide_eq_true built.named⟩), List.forall₂_map_right_iff]
        refine ih.imp fun value group built => ?_
        split
        · rename_i mine
          exact built.append named_more (mine.symm.trans built.named)
        · rename_i other
          exact built.append_of_ne fun same => other (built.named.trans same)
      · have absent : ¬((rows.foldl (addTo name key start more) []).any fun group =>
            name group = key row) = true := by
          intro found
          obtain ⟨group, listed, same⟩ := List.any_eq_true.mp found
          obtain ⟨value, inside, built⟩ := exists_left_of_forall₂ ih listed
          exact known (built.named.symm.trans (of_decide_eq_true same) ▸ inside)
        rw [keys_append_of_notMem known, if_neg absent]
        have others := (List.forall₂_and_left (p := fun value => value ≠ key row) _ _).mpr
          ⟨fun value inside => ne_of_mem_of_not_mem inside known, ih⟩
        exact List.rel_append (others.imp fun _ _ both => both.2.append_of_ne both.1)
          (.cons (built_start named_start known) .nil)

/-- Groups that are built alike are the same where only their common part is read. -/
theorem map_foldl_addTo {Other : Type*} {name' : Other → Key} {start' : Row → Other}
    {more' : Other → Row → Other} {shape : Group → Other}
    (names : ∀ group, name' (shape group) = name group)
    (starts : ∀ row, shape (start row) = start' row)
    (adds : ∀ group row, shape (more group row) = more' (shape group) row) (rows : List Row)
    (groups : List Group) :
    (rows.foldl (addTo name key start more) groups).map shape =
      rows.foldl (addTo name' key start' more') (groups.map shape) := by
  induction rows generalizing groups with
  | nil => rfl
  | cons row rest ih =>
      rw [List.foldl_cons, List.foldl_cons, ih]
      congr 1
      have known : ((groups.map shape).any fun group => name' group = key row) =
          groups.any fun group => name group = key row := by
        rw [List.any_map]
        refine List.any_congr rfl fun group => ?_
        rw [Function.comp_apply, names]
      rw [addTo, addTo, known]
      split
      · rw [List.map_map, List.map_map]
        refine List.map_congr_left fun group _ => ?_
        rw [Function.comp_apply, Function.comp_apply, names]
        split
        · exact adds group row
        · rfl
      · rw [List.map_append, List.map_singleton, starts]

end Fold

end Foundation.Grouping
