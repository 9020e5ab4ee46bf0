import Mathlib.Algebra.GroupWithZero.Nat
import Mathlib.Data.List.Nodup
import Mathlib.Algebra.BigOperators.Group.List.Basic

/-!
# Tables with an allocated primary key

A table is the list of its rows in insertion order together with the next key
to allocate.  Keys increase along the list, so they are pairwise distinct and
the last row is the one created last.  The operations are the ones a relational
store offers: look up by key, create, update the rows of a selection, delete the
rows of a selection, and sum a weight over the rows.
-/

namespace Foundation

/-- Rows that carry their primary key. -/
class Identified (Row : Type*) where
  ident : Row → Nat

export Identified (ident)

/-- A table: rows in insertion order, keys increasing and already allocated. -/
structure Table (Row : Type*) [Identified Row] where
  rows : List Row
  next : Nat
  increasing : rows.Pairwise (fun first second => ident first < ident second)
  allocated : ∀ row ∈ rows, ident row < next

namespace Table

variable {Row : Type*} [Identified Row]

instance : Membership Row (Table Row) := ⟨fun table row => row ∈ table.rows⟩

theorem mem_def {table : Table Row} {row : Row} : row ∈ table ↔ row ∈ table.rows := Iff.rfl

instance [DecidableEq Row] (table : Table Row) (row : Row) : Decidable (row ∈ table) :=
  inferInstanceAs (Decidable (row ∈ table.rows))

instance [DecidableEq Row] : DecidableEq (Table Row) := fun first second =>
  decidable_of_iff (first.rows = second.rows ∧ first.next = second.next) <| by
    cases first
    cases second
    simp

def empty : Table Row := ⟨[], 0, List.Pairwise.nil, by simp⟩

/-- The row with the given key, when there is one. -/
def find? (table : Table Row) (key : Nat) : Option Row :=
  table.rows.find? (fun row => ident row == key)

/-- Insert a row under the next key. -/
def create (table : Table Row) (build : Nat → Row)
    (ident_build : ∀ key, ident (build key) = key) : Table Row where
  rows := table.rows ++ [build table.next]
  next := table.next + 1
  increasing := by
    rw [List.pairwise_append]
    refine ⟨table.increasing, List.pairwise_singleton _ _, ?_⟩
    intro row member last isLast
    rw [List.mem_singleton.mp isLast, ident_build]
    exact table.allocated row member
  allocated := by
    intro row member
    rcases List.mem_append.mp member with old | isLast
    · exact Nat.lt_succ_of_lt (table.allocated row old)
    · rw [List.mem_singleton.mp isLast, ident_build]
      exact Nat.lt_succ_self _

/-- Update every selected row, keeping its key. -/
def updateWhere (table : Table Row) (selected : Row → Bool) (change : Row → Row)
    (keeps : ∀ row, ident (change row) = ident row) : Table Row where
  rows := table.rows.map fun row => if selected row then change row else row
  next := table.next
  increasing := by
    rw [List.pairwise_map]
    apply table.increasing.imp
    intro first second lower
    split <;> split <;> simpa only [keeps] using lower
  allocated := by
    intro row member
    obtain ⟨source, old, rfl⟩ := List.mem_map.mp member
    split
    · rw [keeps]
      exact table.allocated source old
    · exact table.allocated source old

/-- Update the row with the given key. -/
def modify (table : Table Row) (key : Nat) (change : Row → Row)
    (keeps : ∀ row, ident (change row) = ident row) : Table Row :=
  table.updateWhere (fun row => ident row == key) change keeps

/-- Delete every selected row. -/
def deleteWhere (table : Table Row) (selected : Row → Bool) : Table Row where
  rows := table.rows.filter fun row => !selected row
  next := table.next
  increasing := table.increasing.filter _
  allocated := fun row member => table.allocated row (List.mem_filter.mp member).1

/-- Update the first selected row, or insert one when none is selected. -/
def updateOrCreate (table : Table Row) (selected : Row → Bool) (change : Row → Row)
    (keeps : ∀ row, ident (change row) = ident row) (build : Nat → Row)
    (ident_build : ∀ key, ident (build key) = key) : Table Row :=
  match table.rows.find? selected with
  | some row => table.modify (ident row) change keeps
  | none => table.create build ident_build

/-- The row that `updateOrCreate` leaves. -/
def written (table : Table Row) (selected : Row → Bool) (change : Row → Row)
    (build : Nat → Row) : Row :=
  match table.rows.find? selected with
  | some row => change row
  | none => build table.next

/-- Insert a row for each of the values, in order. -/
def createAll {Value : Type*} (table : Table Row) (build : Value → Nat → Row)
    (ident_build : ∀ value key, ident (build value key) = key) (values : List Value) :
    Table Row :=
  values.foldl (fun table value => table.create (build value) (ident_build value)) table

/-- Save a row under its own key, in the place of the row that is there. -/
def put (table : Table Row) (row : Row) : Table Row where
  rows := (table.rows.filter fun other => ident other < ident row) ++
    row :: table.rows.filter fun other => ident row < ident other
  next := max table.next (ident row + 1)
  increasing := by
    refine List.pairwise_append.mpr ⟨table.increasing.filter _, ?_, ?_⟩
    · refine List.pairwise_cons.mpr ⟨?_, table.increasing.filter _⟩
      intro other member
      exact of_decide_eq_true (List.mem_filter.mp member).2
    · intro lower member upper inside
      have below : ident lower < ident row := of_decide_eq_true (List.mem_filter.mp member).2
      rcases List.mem_cons.mp inside with rfl | above
      · exact below
      · exact Nat.lt_trans below (of_decide_eq_true (List.mem_filter.mp above).2)
  allocated := by
    intro other member
    have kept (inside : other ∈ table.rows) : ident other < max table.next (ident row + 1) :=
      Nat.lt_of_lt_of_le (table.allocated other inside) (Nat.le_max_left _ _)
    rcases List.mem_append.mp member with lower | upper
    · exact kept (List.mem_filter.mp lower).1
    · rcases List.mem_cons.mp upper with rfl | upper
      · exact Nat.lt_of_lt_of_le (Nat.lt_succ_self _) (Nat.le_max_right _ _)
      · exact kept (List.mem_filter.mp upper).1

/-- The rows seen as rows of another kind, under their keys. -/
def mapRows {Other : Type*} [Identified Other] (table : Table Row) (view : Row → Other)
    (keeps : ∀ row, ident (view row) = ident row) : Table Other where
  rows := table.rows.map view
  next := table.next
  increasing := by
    rw [List.pairwise_map]
    refine table.increasing.imp ?_
    intro first second lower
    rwa [keeps, keeps]
  allocated := by
    intro row member
    obtain ⟨source, old, rfl⟩ := List.mem_map.mp member
    rw [keeps]
    exact table.allocated source old

/-- The sum of a weight over the rows. -/
def total (table : Table Row) (weight : Row → Nat) : Nat :=
  (table.rows.map weight).sum

/-! ## Membership -/

@[simp]
theorem not_mem_empty (row : Row) : row ∉ (empty : Table Row) :=
  List.not_mem_nil

theorem ident_injective {table : Table Row} {first second : Row}
    (inFirst : first ∈ table) (inSecond : second ∈ table)
    (same : ident first = ident second) : first = second := by
  have distinct : (table.rows.map ident).Nodup :=
    List.pairwise_map.mpr (table.increasing.imp (fun lower => Nat.ne_of_lt lower))
  exact List.inj_on_of_nodup_map distinct inFirst inSecond same

theorem mem_of_find? {table : Table Row} {key : Nat} {row : Row}
    (found : table.find? key = some row) : row ∈ table :=
  List.mem_of_find?_eq_some found

theorem ident_of_find? {table : Table Row} {key : Nat} {row : Row}
    (found : table.find? key = some row) : ident row = key := by
  simpa using List.find?_some found

theorem find?_eq_some_iff {table : Table Row} {key : Nat} {row : Row} :
    table.find? key = some row ↔ row ∈ table ∧ ident row = key := by
  constructor
  · intro found
    exact ⟨mem_of_find? found, ident_of_find? found⟩
  · rintro ⟨member, rfl⟩
    cases found : table.find? (ident row) with
    | none =>
        have absent := List.find?_eq_none.mp found row member
        simp at absent
    | some other =>
        rw [ident_injective (mem_of_find? found) member (ident_of_find? found)]

@[simp]
theorem mem_create {table : Table Row} {build : Nat → Row}
    {ident_build : ∀ key, ident (build key) = key} {row : Row} :
    row ∈ table.create build ident_build ↔ row ∈ table ∨ row = build table.next := by
  simp [mem_def, create]

/-- The new rows follow the old ones, under consecutive keys. -/
theorem rows_createAll {Value : Type*} (table : Table Row) (build : Value → Nat → Row)
    (ident_build : ∀ value key, ident (build value key) = key) (values : List Value) :
    (table.createAll build ident_build values).rows =
      table.rows ++ (values.zipIdx table.next).map fun entry => build entry.1 entry.2 := by
  induction values generalizing table with
  | nil => exact (List.append_nil _).symm
  | cons value rest ih =>
      have later := ih (table.create (build value) (ident_build value))
      have rows_eq : (table.create (build value) (ident_build value)).rows =
          table.rows ++ [build value table.next] := rfl
      rw [rows_eq, List.append_assoc] at later
      rw [List.zipIdx_cons, List.map_cons]
      exact later

theorem mem_createAll {Value : Type*} {table : Table Row} {build : Value → Nat → Row}
    {ident_build : ∀ value key, ident (build value key) = key} {values : List Value} {row : Row}
    (inside : row ∈ table.createAll build ident_build values) :
    row ∈ table ∨ ∃ value ∈ values, ∃ key, row = build value key := by
  induction values generalizing table with
  | nil => exact Or.inl inside
  | cons value rest ih =>
      rcases ih inside with created | ⟨other, later, key, rfl⟩
      · rcases mem_create.mp created with old | rfl
        · exact Or.inl old
        · exact Or.inr ⟨value, List.mem_cons_self, table.next, rfl⟩
      · exact Or.inr ⟨other, List.mem_cons_of_mem _ later, key, rfl⟩

theorem mem_createAll_of_mem {Value : Type*} {table : Table Row} {build : Value → Nat → Row}
    {ident_build : ∀ value key, ident (build value key) = key} {values : List Value} {row : Row}
    (inside : row ∈ table) : row ∈ table.createAll build ident_build values := by
  induction values generalizing table with
  | nil => exact inside
  | cons value rest ih => exact ih (mem_create.mpr (Or.inl inside))

theorem exists_mem_createAll {Value : Type*} {table : Table Row} {build : Value → Nat → Row}
    {ident_build : ∀ value key, ident (build value key) = key} {values : List Value}
    {value : Value} (listed : value ∈ values) :
    ∃ key, build value key ∈ table.createAll build ident_build values := by
  induction values generalizing table with
  | nil => cases listed
  | cons first rest ih =>
      rcases List.mem_cons.mp listed with rfl | later
      · have created : build value table.next ∈ table.create (build value) (ident_build value) :=
          mem_create.mpr (Or.inr rfl)
        have kept : build value table.next ∈ (table.create (build value)
            (ident_build value)).createAll build ident_build rest := mem_createAll_of_mem created
        exact ⟨table.next, kept⟩
      · exact ih later

@[simp]
theorem mem_updateWhere {table : Table Row} {selected : Row → Bool} {change : Row → Row}
    {keeps : ∀ row, ident (change row) = ident row} {row : Row} :
    row ∈ table.updateWhere selected change keeps ↔
      ∃ source ∈ table, (if selected source then change source else source) = row := by
  simp [mem_def, updateWhere]

@[simp]
theorem mem_modify {table : Table Row} {key : Nat} {change : Row → Row}
    {keeps : ∀ row, ident (change row) = ident row} {row : Row} :
    row ∈ table.modify key change keeps ↔
      ∃ source ∈ table, (if ident source = key then change source else source) = row := by
  simp [modify]

/-- What holds of every row after an update. -/
theorem forall_mem_modify {table : Table Row} {key : Nat} {change : Row → Row}
    {keeps : ∀ row, ident (change row) = ident row} {P : Row → Prop} :
    (∀ row ∈ table.modify key change keeps, P row) ↔
      ∀ row ∈ table, P (if ident row = key then change row else row) := by
  constructor
  · exact fun each row inside => each _ (mem_modify.mpr ⟨row, inside, rfl⟩)
  · intro each row inside
    obtain ⟨source, known, rfl⟩ := mem_modify.mp inside
    exact each source known

/-- An update of a row of the table: the changed row, and the others. -/
theorem mem_modify_of_mem {table : Table Row} {row : Row} (member : row ∈ table)
    {change : Row → Row} {keeps : ∀ row, ident (change row) = ident row} {other : Row} :
    other ∈ table.modify (ident row) change keeps ↔
      other = change row ∨ other ∈ table ∧ ident other ≠ ident row := by
  rw [mem_modify]
  constructor
  · rintro ⟨source, inside, rfl⟩
    split
    · rename_i same
      rw [ident_injective inside member same]
      exact Or.inl rfl
    · rename_i different
      exact Or.inr ⟨inside, different⟩
  · rintro (rfl | ⟨inside, different⟩)
    · exact ⟨row, member, if_pos rfl⟩
    · exact ⟨other, inside, if_neg different⟩

/-- Changing a row leaves the rows of other values of what the change keeps. -/
theorem mem_modify_of_key_ne {Key : Type*} {key : Row → Key} {table : Table Row} {row other : Row}
    {change : Row → Row} (keeps : ∀ row, ident (change row) = ident row) (member : row ∈ table)
    (same : key (change row) = key row) (apart : key other ≠ key row) :
    other ∈ table.modify (ident row) change keeps ↔ other ∈ table := by
  have changed : other ≠ change row := fun hit => apart (hit ▸ same)
  rw [mem_modify_of_mem member, or_iff_right changed, and_iff_left_iff_imp]
  exact fun old hit => apart (congrArg key (ident_injective old member hit))

/-- The row that a rewritten row comes from is known by its key. -/
theorem source_eq {table : Table Row} {chosen : Prop} [Decidable chosen] {change : Row → Row}
    (keeps : ∀ row, ident (change row) = ident row) {source row : Row} (inside : source ∈ table)
    (member : row ∈ table) (same : ident (if chosen then change source else source) = ident row) :
    source = row := by
  refine ident_injective inside member (Eq.trans ?_ same)
  split
  · exact (keeps source).symm
  · rfl

@[simp]
theorem mem_deleteWhere {table : Table Row} {selected : Row → Bool} {row : Row} :
    row ∈ table.deleteWhere selected ↔ row ∈ table ∧ selected row = false := by
  simp [mem_def, deleteWhere]

theorem mem_put {table : Table Row} {row other : Row} :
    other ∈ table.put row ↔ other = row ∨ other ∈ table ∧ ident other ≠ ident row := by
  simp only [mem_def, put, List.mem_append, List.mem_cons, List.mem_filter, decide_eq_true_eq]
  constructor
  · rintro (⟨inside, below⟩ | same | ⟨inside, above⟩)
    · exact Or.inr ⟨inside, Nat.ne_of_lt below⟩
    · exact Or.inl same
    · exact Or.inr ⟨inside, Nat.ne_of_gt above⟩
  · rintro (same | ⟨inside, apart⟩)
    · exact Or.inr (Or.inl same)
    · rcases Nat.lt_or_gt_of_ne apart with below | above
      · exact Or.inl ⟨inside, below⟩
      · exact Or.inr (Or.inr ⟨inside, above⟩)

/-- No operation on a table but a deletion takes a key away. -/
theorem exists_ident_modify {table : Table Row} {key other : Nat} {change : Row → Row}
    {keeps : ∀ row, ident (change row) = ident row} :
    (∃ row ∈ table.modify key change keeps, ident row = other) ↔
      ∃ row ∈ table, ident row = other := by
  constructor
  · rintro ⟨_, inside, rfl⟩
    obtain ⟨source, old, rfl⟩ := mem_modify.mp inside
    refine ⟨source, old, ?_⟩
    split
    · exact (keeps source).symm
    · rfl
  · rintro ⟨row, inside, rfl⟩
    refine ⟨_, mem_modify.mpr ⟨row, inside, rfl⟩, ?_⟩
    split
    · exact keeps row
    · rfl

/-- What an update makes true of its rows is true of the rows of a key where it was
before, or where the update is of that key. -/
theorem forall_mem_modify_iff {table : Table Row} {key other : Nat} {change : Row → Row}
    {keeps : ∀ row, ident (change row) = ident row} {P : Row → Prop} (made : ∀ row, P (change row)) :
    (∀ row ∈ table.modify key change keeps, ident row = other → P row) ↔
      (∀ row ∈ table, ident row = other → P row) ∨ key = other := by
  by_cases same : key = other
  · refine iff_of_true ?_ (Or.inr same)
    intro row inside mine
    obtain ⟨source, _, rfl⟩ := mem_modify.mp inside
    split at mine
    · rw [if_pos ‹_›]
      exact made source
    · rename_i apart
      exact absurd (mine.trans same.symm) apart
  · rw [or_iff_left same]
    constructor
    · intro after row inside mine
      have apart : ident row ≠ key := fun equal => same (equal.symm.trans mine)
      exact after row (mem_modify.mpr ⟨row, inside, if_neg apart⟩) mine
    · intro before row inside mine
      obtain ⟨source, old, rfl⟩ := mem_modify.mp inside
      split at mine
      · rename_i equal
        exact absurd (equal.symm.trans ((keeps source).symm.trans mine)) same
      · rename_i apart
        rw [if_neg apart]
        exact before source old mine

theorem updateOrCreate_of_none {table : Table Row} {selected : Row → Bool}
    {change : Row → Row} {keeps : ∀ row, ident (change row) = ident row} {build : Nat → Row}
    {ident_build : ∀ key, ident (build key) = key} (absent : table.rows.find? selected = none) :
    table.updateOrCreate selected change keeps build ident_build =
      table.create build ident_build := by
  rw [updateOrCreate, absent]

theorem updateOrCreate_of_some {table : Table Row} {selected : Row → Bool}
    {change : Row → Row} {keeps : ∀ row, ident (change row) = ident row} {build : Nat → Row}
    {ident_build : ∀ key, ident (build key) = key} {row : Row}
    (found : table.rows.find? selected = some row) :
    table.updateOrCreate selected change keeps build ident_build =
      table.modify (ident row) change keeps := by
  rw [updateOrCreate, found]

/-- What the written row meets, and the rows that were there, all rows meet. -/
theorem forall_updateOrCreate {table : Table Row} {selected : Row → Bool} {change : Row → Row}
    {keeps : ∀ row, ident (change row) = ident row} {build : Nat → Row}
    {ident_build : ∀ key, ident (build key) = key} {P : Row → Prop} (all : ∀ row ∈ table, P row)
    (changed : ∀ row, P (change row)) (built : ∀ key, P (build key)) :
    ∀ row ∈ table.updateOrCreate selected change keeps build ident_build, P row := by
  intro row member
  rw [updateOrCreate] at member
  split at member
  · obtain ⟨source, old, rfl⟩ := mem_modify.mp member
    split
    · exact changed source
    · exact all source old
  · rcases mem_create.mp member with old | rfl
    · exact all row old
    · exact built table.next

theorem exists_ident_updateOrCreate {table : Table Row} {selected : Row → Bool}
    {change : Row → Row} {keeps : ∀ row, ident (change row) = ident row} {build : Nat → Row}
    {ident_build : ∀ key, ident (build key) = key} {key : Nat}
    (known : ∃ row ∈ table, ident row = key) :
    ∃ row ∈ table.updateOrCreate selected change keeps build ident_build, ident row = key := by
  rw [updateOrCreate]
  split
  · exact exists_ident_modify.mpr known
  · obtain ⟨row, inside, same⟩ := known
    exact ⟨row, mem_create.mpr (Or.inl inside), same⟩

/-- Writing the row of a value of a unique key keeps the key unique. -/
theorem unique_updateOrCreate {Key : Type*} {table : Table Row} {key : Row → Key} {value : Key}
    {selected : Row → Bool} {change : Row → Row} {keeps : ∀ row, ident (change row) = ident row}
    {build : Nat → Row} {ident_build : ∀ key, ident (build key) = key}
    (selects : ∀ row, selected row = true ↔ key row = value)
    (changed : ∀ row, key (change row) = key row) (built : ∀ next, key (build next) = value)
    (unique : table.rows.Pairwise fun first second => key first ≠ key second) :
    (table.updateOrCreate selected change keeps build ident_build).rows.Pairwise
      fun first second => key first ≠ key second := by
  have same (row : Row) (chosen : Bool) : key (if chosen then change row else row) = key row := by
    split
    · exact changed row
    · rfl
  rw [updateOrCreate]
  split
  · refine List.pairwise_map.mpr (unique.imp fun {first second} apart => ?_)
    rwa [same, same]
  · rename_i absent
    refine List.pairwise_append.mpr ⟨unique, List.pairwise_singleton _ _, ?_⟩
    intro row inside last isLast
    rw [List.mem_singleton.mp isLast, built, Ne, ← selects]
    exact List.find?_eq_none.mp absent row inside

/-- Writing the row of a value of a key leaves the rows of other values. -/
theorem mem_updateOrCreate_of_ne {Key : Type*} {table : Table Row} {key : Row → Key} {value : Key}
    {selected : Row → Bool} {change : Row → Row} {keeps : ∀ row, ident (change row) = ident row}
    {build : Nat → Row} {ident_build : ∀ key, ident (build key) = key}
    (selects : ∀ row, selected row = true ↔ key row = value)
    (changed : ∀ row, key (change row) = key row) (built : ∀ next, key (build next) = value)
    {row : Row} (other : key row ≠ value) :
    row ∈ table.updateOrCreate selected change keeps build ident_build ↔ row ∈ table := by
  rw [updateOrCreate]
  split
  · rename_i found present
    have mine : key found = value := (selects found).mp (List.find?_some present)
    exact mem_modify_of_key_ne keeps (List.mem_of_find?_eq_some present) (changed found)
      (ne_of_ne_of_eq other mine.symm)
  · rw [mem_create]
    exact or_iff_left fun new => other (new ▸ built table.next)

/-- A view that shows neither the row that is written nor the one it replaces is the same. -/
theorem filter_updateOrCreate {table : Table Row} {shown selected : Row → Bool}
    {change : Row → Row} {keeps : ∀ row, ident (change row) = ident row} {build : Nat → Row}
    {ident_build : ∀ key, ident (build key) = key}
    (before : ∀ row, selected row = true → shown row = false)
    (after : ∀ row, selected row = true → shown (change row) = false)
    (built : ∀ key, shown (build key) = false) :
    (table.updateOrCreate selected change keeps build ident_build).rows.filter shown =
      table.rows.filter shown := by
  rw [updateOrCreate]
  split
  · rename_i found present
    have chosen := List.find?_some present
    have inside : found ∈ table := List.mem_of_find?_eq_some present
    have kept : ∀ row ∈ table.rows,
        (shown ∘ fun row => if ident row = ident found then change row else row) row =
          shown row := by
      intro row member
      rw [Function.comp_apply]
      split
      · rename_i same
        rw [ident_injective member inside same, before found chosen, after found chosen]
      · rfl
    have moved : ∀ row ∈ table.rows, shown row = true →
        (if ident row = ident found then change row else row) = row := by
      intro row member seen
      refine if_neg fun same => ?_
      rw [ident_injective member inside same, before found chosen] at seen
      cases seen
    have rows : (table.modify (ident found) change keeps).rows =
        table.rows.map fun row => if ident row = ident found then change row else row := by
      simp [modify, updateWhere]
    rw [rows, List.filter_map, List.filter_congr kept]
    refine (List.map_congr_left fun row member => ?_).trans (List.map_id _)
    exact moved row (List.mem_filter.mp member).1 (List.mem_filter.mp member).2
  · rw [create, List.filter_append, List.filter_cons_of_neg (by simp [built]), List.filter_nil,
      List.append_nil]

/-- A search that does not see a change finds the changed row. -/
theorem search_updateWhere (table : Table Row) {selected sought : Row → Bool} {change : Row → Row}
    {keeps : ∀ row, ident (change row) = ident row}
    (unseen : ∀ row, sought (change row) = sought row) :
    (table.updateWhere selected change keeps).rows.find? sought =
      (table.rows.find? sought).map fun row => if selected row then change row else row := by
  have same : (sought ∘ fun row => if selected row then change row else row) = sought := by
    funext row
    rw [Function.comp_apply, apply_ite sought, unseen, ite_self]
  rw [updateWhere, List.find?_map, same]

/-- The row that is written is the one that the same search then finds. -/
theorem search_updateOrCreate (table : Table Row) {selected : Row → Bool} {change : Row → Row}
    {keeps : ∀ row, ident (change row) = ident row} {build : Nat → Row}
    {ident_build : ∀ key, ident (build key) = key}
    (changed : ∀ row, selected (change row) = selected row)
    (built : ∀ key, selected (build key) = true) :
    (table.updateOrCreate selected change keeps build ident_build).rows.find? selected =
      some (table.written selected change build) := by
  rw [updateOrCreate, written]
  cases found : table.rows.find? selected with
  | none =>
      dsimp only
      rw [create, List.find?_append, found, Option.none_or]
      exact List.find?_cons_of_pos (built table.next)
  | some row =>
      dsimp only
      rw [modify, search_updateWhere table changed, found, Option.map_some]
      exact congrArg some (if_pos (beq_self_eq_true (ident row)))

theorem find?_modify (table : Table Row) (key other : Nat) (change : Row → Row)
    (keeps : ∀ row, ident (change row) = ident row) :
    (table.modify key change keeps).find? other =
      (table.find? other).map fun row => if ident row = key then change row else row := by
  rw [find?, find?, modify, search_updateWhere table fun row => by rw [keeps]]
  simp only [beq_iff_eq]

/-- Looking up the updated key. -/
theorem find?_modify_self (table : Table Row) (key : Nat) (change : Row → Row)
    (keeps : ∀ row, ident (change row) = ident row) :
    (table.modify key change keeps).find? key = (table.find? key).map change := by
  rw [find?_modify]
  cases found : table.find? key with
  | none => rfl
  | some row => rw [Option.map_some, Option.map_some, if_pos (ident_of_find? found)]

/-- Looking up another key. -/
theorem find?_modify_of_ne {table : Table Row} {key other : Nat} (apart : other ≠ key)
    (change : Row → Row) (keeps : ∀ row, ident (change row) = ident row) :
    (table.modify key change keeps).find? other = table.find? other := by
  rw [find?_modify]
  cases found : table.find? other with
  | none => rfl
  | some row =>
      rw [Option.map_some, if_neg]
      exact fun same => apart ((ident_of_find? found).symm.trans same)

/-- Looking up after the update of a present row. -/
theorem find?_modify_of_mem {table : Table Row} {row : Row} (member : row ∈ table)
    (change : Row → Row) (keeps : ∀ row, ident (change row) = ident row) (key : Nat) :
    (table.modify (ident row) change keeps).find? key =
      if key = ident row then some (change row) else table.find? key := by
  by_cases mine : key = ident row
  · have lookup : table.find? (ident row) = some row := find?_eq_some_iff.mpr ⟨member, rfl⟩
    rw [if_pos mine, mine, find?_modify_self, lookup, Option.map_some]
  · rw [if_neg mine, find?_modify_of_ne mine]

/-- Updating an absent key changes nothing. -/
theorem modify_of_absent {table : Table Row} {key : Nat} (absent : table.find? key = none)
    (change : Row → Row) (keeps : ∀ row, ident (change row) = ident row) :
    table.modify key change keeps = table := by
  have unchanged : table.rows.map (fun row => if ident row == key then change row else row) =
      table.rows := by
    have other : ∀ row ∈ table.rows, (ident row == key) = false := by
      intro row member
      simpa using List.find?_eq_none.mp absent row member
    calc table.rows.map (fun row => if ident row == key then change row else row)
        = table.rows.map id := by
          apply List.map_congr_left
          intro row member
          simp [other row member]
      _ = table.rows := List.map_id _
  cases table
  simpa [modify, updateWhere] using unchanged

/-- Changes that agree on the rows of a key update it alike. -/
theorem modify_congr {table : Table Row} {key : Nat} {first second : Row → Row}
    {keeps_first : ∀ row, ident (first row) = ident row}
    {keeps_second : ∀ row, ident (second row) = ident row}
    (agree : ∀ row ∈ table, ident row = key → first row = second row) :
    table.modify key first keeps_first = table.modify key second keeps_second := by
  have rows : table.rows.map (fun row => if ident row == key then first row else row) =
      table.rows.map fun row => if ident row == key then second row else row := by
    refine List.map_congr_left ?_
    intro row member
    by_cases own : ident row = key
    · simp [own, agree row member own]
    · simp [own]
  simp only [modify, updateWhere, rows]

/-- Tables with the same rows and the same next key. -/
theorem eq_of_rows {first second : Table Row} (rows : first.rows = second.rows)
    (next : first.next = second.next) : first = second := by
  cases first
  cases second
  cases rows
  cases next
  rfl

/-- An update changes nothing exactly where it leaves the row of the key as it is. -/
theorem modify_eq_self_iff {table : Table Row} {key : Nat} {change : Row → Row}
    {keeps : ∀ row, ident (change row) = ident row} :
    table.modify key change keeps = table ↔
      ∀ row, table.find? key = some row → change row = row := by
  constructor
  · intro same row found
    have looked := find?_modify_self table key change keeps
    rw [same, found, Option.map_some] at looked
    exact (Option.some.inj looked).symm
  · intro untouched
    have unchanged : table.rows.map (fun row => if ident row == key then change row else row) =
        table.rows.map id := by
      refine List.map_congr_left fun row member => ?_
      split
      · rename_i mine
        exact untouched row (find?_eq_some_iff.mpr ⟨member, eq_of_beq mine⟩)
      · rfl
    exact eq_of_rows (unchanged.trans (List.map_id _)) rfl

/-- Updating some keys one after the other, where updating twice is updating once. -/
theorem foldl_modify (table : Table Row) (keys : List Nat) (change : Row → Row)
    (keeps : ∀ row, ident (change row) = ident row)
    (again : ∀ row, change (change row) = change row) :
    keys.foldl (fun table key => table.modify key change keeps) table =
      table.updateWhere (fun row => keys.contains (ident row)) change keeps := by
  induction keys generalizing table with
  | nil => exact eq_of_rows (List.map_id _).symm rfl
  | cons key rest ih =>
      rw [List.foldl_cons, ih]
      refine eq_of_rows ?_ rfl
      change (table.rows.map _).map _ = table.rows.map _
      rw [List.map_map]
      refine List.map_congr_left fun row _ => ?_
      by_cases here : ident row = key
      · simp [here, again]
      · simp [here]

theorem ne_next {table : Table Row} {row : Row} (member : row ∈ table) :
    ident row ≠ table.next :=
  Nat.ne_of_lt (table.allocated row member)

/-! ## Sums -/

@[simp]
theorem total_create (table : Table Row) (build : Nat → Row)
    (ident_build : ∀ key, ident (build key) = key) (weight : Row → Nat) :
    (table.create build ident_build).total weight =
      table.total weight + weight (build table.next) := by
  simp [total, create]

theorem total_congr {table : Table Row} {first second : Row → Nat}
    (agree : ∀ row ∈ table, first row = second row) :
    table.total first = table.total second :=
  congrArg List.sum (List.map_congr_left agree)

theorem total_add (table : Table Row) (first second : Row → Nat) :
    table.total (fun row => first row + second row) =
      table.total first + table.total second := by
  simp [total, List.sum_map_add]

/-- A constant weight on a selection sums to the constant times its size. -/
theorem total_ite (table : Table Row) (selected : Row → Bool) (amount : Nat) :
    table.total (fun row => if selected row then amount else 0) =
      amount * (table.rows.countP selected) := by
  simp only [total]
  induction table.rows with
  | nil => simp
  | cons row rest ih =>
      simp only [List.map_cons, List.sum_cons, ih, List.countP_cons]
      split <;> simp [Nat.mul_add, Nat.add_comm]

/-- A present row splits the table, and no other row carries its key. -/
theorem exists_split {table : Table Row} {row : Row} (member : row ∈ table) :
    ∃ before later, table.rows = before ++ row :: later ∧
      (∀ other ∈ before, ident other ≠ ident row) ∧
      (∀ other ∈ later, ident other ≠ ident row) := by
  obtain ⟨before, later, split⟩ := List.append_of_mem (mem_def.mp member)
  have ordered := table.increasing
  rw [split, List.pairwise_append, List.pairwise_cons] at ordered
  obtain ⟨_, ⟨lowerLater, _⟩, lowerBefore⟩ := ordered
  refine ⟨before, later, split, ?_, ?_⟩
  · intro other inside
    exact Nat.ne_of_lt (lowerBefore other inside row List.mem_cons_self)
  · intro other inside
    exact Nat.ne_of_gt (lowerLater other inside)

/-- Weighing only the row of one key gives that row's weight. -/
theorem total_single {table : Table Row} {row : Row} (member : row ∈ table)
    (weight : Row → Nat) :
    table.total (fun other => if ident other = ident row then weight other else 0) =
      weight row := by
  obtain ⟨before, later, split, apartBefore, apartLater⟩ := exists_split member
  have zero (side : List Row) (differ : ∀ other ∈ side, ident other ≠ ident row) :
      (side.map fun other => if ident other = ident row then weight other else 0).sum = 0 := by
    apply List.sum_eq_zero
    intro value inside
    obtain ⟨other, inSide, rfl⟩ := List.mem_map.mp inside
    exact if_neg (differ other inSide)
  simp only [total, split, List.map_append, List.map_cons, List.sum_append, List.sum_cons,
    zero before apartBefore, zero later apartLater, if_true]
  omega

/-- Updating one present row moves the sum by the change of that row's weight. -/
theorem total_modify {table : Table Row} {row : Row} (member : row ∈ table)
    (change : Row → Row) (keeps : ∀ row, ident (change row) = ident row)
    (weight : Row → Nat) :
    (table.modify (ident row) change keeps).total weight + weight row =
      table.total weight + weight (change row) := by
  obtain ⟨before, later, split, apartBefore, apartLater⟩ := exists_split member
  have others (side : List Row) (differ : ∀ other ∈ side, ident other ≠ ident row) :
      side.map (weight ∘ fun source =>
        if ident source == ident row then change source else source) =
        side.map weight := by
    apply List.map_congr_left
    intro other inSide
    simp [differ other inSide]
  simp only [total, modify, updateWhere, List.map_map, split, List.map_append, List.map_cons,
    others before apartBefore, others later apartLater, List.sum_append, List.sum_cons,
    BEq.rfl, if_true]
  omega

/-! ## Counts -/

theorem nodup_rows (table : Table Row) : table.rows.Nodup := by
  apply table.increasing.imp
  rintro first second lower rfl
  exact Nat.lt_irrefl _ lower

theorem countP_create (table : Table Row) (build : Nat → Row)
    (ident_build : ∀ key, ident (build key) = key) (selected : Row → Bool) :
    (table.create build ident_build).rows.countP selected =
      table.rows.countP selected + if selected (build table.next) = true then 1 else 0 := by
  rw [create, List.countP_append, List.countP_singleton]

theorem countP_createAll {Value : Type*} (table : Table Row) (build : Value → Nat → Row)
    (ident_build : ∀ value key, ident (build value key) = key) (selected : Row → Bool)
    (counted : Value → Bool) (same : ∀ value key, selected (build value key) = counted value)
    (values : List Value) :
    (table.createAll build ident_build values).rows.countP selected =
      table.rows.countP selected + values.countP counted := by
  induction values generalizing table with
  | nil => rfl
  | cons value rest ih =>
      have later := ih (table.create (build value) (ident_build value))
      rw [countP_create, same] at later
      rw [List.countP_cons, Nat.add_comm (rest.countP counted), ← Nat.add_assoc]
      exact later

theorem countP_deleteWhere_le (table : Table Row) (deleted selected : Row → Bool) :
    (table.deleteWhere deleted).rows.countP selected ≤ table.rows.countP selected :=
  List.filter_sublist.countP_le

/-- Updating one present row moves a count by what that row counts. -/
theorem countP_modify {table : Table Row} {row : Row} (member : row ∈ table)
    (change : Row → Row) (keeps : ∀ row, ident (change row) = ident row)
    (selected : Row → Bool) :
    (table.modify (ident row) change keeps).rows.countP selected +
        (if selected row = true then 1 else 0) =
      table.rows.countP selected + if selected (change row) = true then 1 else 0 := by
  have moved := total_modify member change keeps fun row => if selected row = true then 1 else 0
  simpa only [total_ite, Nat.one_mul] using moved

/-- A selection of the table counts as a list does that holds the same rows. -/
theorem countP_eq_of_mem_iff {table : Table Row} {part : List Row} (nodup : part.Nodup)
    {selected kept : Row → Bool}
    (same : ∀ row, (row ∈ table ∧ selected row = true) ↔ (row ∈ part ∧ kept row = true)) :
    table.rows.countP selected = part.countP kept := by
  have matching : (table.rows.filter selected).Perm (part.filter kept) := by
    apply (List.perm_ext_iff_of_nodup (table.nodup_rows.filter _) (nodup.filter _)).mpr
    intro row
    simp only [List.mem_filter]
    exact same row
  rw [List.countP_eq_length_filter, List.countP_eq_length_filter]
  exact matching.length_eq

/-- Two selections have the same size when each has as many rows that the other
leaves out. -/
theorem countP_eq_countP_iff (table : Table Row) (first second : Row → Bool) :
    table.rows.countP first = table.rows.countP second ↔
      table.rows.countP (fun row => second row && !first row) =
        table.rows.countP (fun row => first row && !second row) := by
  have balance : table.rows.countP first +
        table.rows.countP (fun row => second row && !first row) =
      table.rows.countP second + table.rows.countP (fun row => first row && !second row) := by
    induction table.rows with
    | nil => rfl
    | cons row rest ih =>
        simp only [List.countP_cons]
        cases first row <;> cases second row <;> simp <;> omega
  omega

end Table

end Foundation
