import Mathlib.Data.List.Induction
import Mathlib.Data.List.Nodup

/-!
# The first two rows of each key

A pass over a list keeps, in order, the first row of each key and, apart, the
second one.
-/

namespace Foundation

variable {Row Key : Type*} [DecidableEq Key]

/-- The first rows of the keys met so far, and the second ones. -/
structure FirstTwo (Row : Type*) where
  firsts : List Row
  seconds : List Row

namespace FirstTwo

def start : FirstTwo Row := ⟨[], []⟩

def meet (key : Row → Key) (seen : FirstTwo Row) (row : Row) : FirstTwo Row :=
  if key row ∉ seen.firsts.map key then { seen with firsts := seen.firsts ++ [row] }
  else if key row ∉ seen.seconds.map key then { seen with seconds := seen.seconds ++ [row] }
  else seen

def pass (key : Row → Key) (rows : List Row) : FirstTwo Row := rows.foldl (meet key) start

variable {key : Row → Key} {rows : List Row}

theorem pass_append_singleton (rows : List Row) (row : Row) :
    pass key (rows ++ [row]) = meet key (pass key rows) row := by
  rw [pass, List.foldl_append]
  rfl

/-- The row found under a key is the first of the list. -/
theorem find?_firsts (rows : List Row) (value : Key) :
    ((pass key rows).firsts.find? fun row => key row = value) =
      rows.find? fun row => key row = value := by
  induction rows using List.reverseRecOn with
  | nil => rfl
  | append_singleton rows row ih =>
      rw [pass_append_singleton, meet, List.find?_append, ← ih]
      split
      · rw [List.find?_append]
      · rename_i met
        have kept : ((pass key rows).firsts.find? fun row => key row = value) =
            ((pass key rows).firsts.find? fun row => key row = value).or
              ([row].find? fun row => key row = value) := by
          by_cases mine : key row = value
          · obtain ⟨other, inside, same⟩ := List.mem_map.mp (not_not.mp met)
            cases found : (pass key rows).firsts.find? fun row => key row = value with
            | some _ => rfl
            | none =>
                exact absurd (decide_eq_true (same.trans mine))
                  (List.find?_eq_none.mp found other inside)
          · simp [mine]
        split <;> exact kept

theorem nodup_firsts (rows : List Row) : ((pass key rows).firsts.map key).Nodup := by
  induction rows using List.reverseRecOn with
  | nil => exact List.nodup_nil
  | append_singleton rows row ih =>
      rw [pass_append_singleton, meet]
      split
      · rename_i fresh
        rw [List.map_append, List.map_singleton, ← List.concat_eq_append]
        exact ih.concat fresh
      · split <;> exact ih

theorem mem_firsts_iff (rows : List Row) (row : Row) :
    row ∈ (pass key rows).firsts ↔ (rows.find? fun other => key other = key row) = some row := by
  rw [← find?_firsts]
  constructor
  · intro inside
    cases found : (pass key rows).firsts.find? fun other => key other = key row with
    | none => exact absurd (decide_eq_true rfl) (List.find?_eq_none.mp found row inside)
    | some other =>
        have same : key other = key row := by simpa using List.find?_some found
        exact congrArg some (List.inj_on_of_nodup_map (nodup_firsts rows)
          (List.mem_of_find?_eq_some found) inside same)
  · exact List.mem_of_find?_eq_some

theorem mem_keys_firsts_iff (rows : List Row) (value : Key) :
    value ∈ (pass key rows).firsts.map key ↔ value ∈ rows.map key := by
  have met (list : List Row) :
      value ∈ list.map key ↔ (list.find? fun row => key row = value).isSome = true := by
    simp [List.mem_map]
  rw [met, met, find?_firsts]

theorem mem_keys_seconds_iff (rows : List Row) (value : Key) :
    value ∈ (pass key rows).seconds.map key ↔ 2 ≤ rows.countP fun row => key row = value := by
  induction rows using List.reverseRecOn with
  | nil => simp [pass, start]
  | append_singleton rows row ih =>
      have first : value ∈ (pass key rows).firsts.map key ↔
          0 < rows.countP fun row => key row = value := by
        rw [mem_keys_firsts_iff, List.countP_pos_iff, List.mem_map]
        simp only [decide_eq_true_eq]
      rw [pass_append_singleton, meet, List.countP_append, List.countP_singleton]
      by_cases mine : key row = value
      · subst mine
        simp only [decide_true, if_true]
        split
        · rename_i fresh
          have absent := mt first.mpr fresh
          rw [ih]
          omega
        · rename_i met
          have present := first.mp (not_not.mp met)
          split
          · rename_i once
            rw [List.map_append, List.map_singleton]
            refine iff_of_true (List.mem_append_right _ (List.mem_singleton_self _)) ?_
            omega
          · rename_i twice
            have again := ih.mp (not_not.mp twice)
            exact iff_of_true (not_not.mp twice) (by omega)
      · have same : (value ∈ (meet key (pass key rows) row).seconds.map key) ↔
            value ∈ (pass key rows).seconds.map key := by
          rw [meet]
          split
          · exact Iff.rfl
          · split
            · simp [Ne.symm mine]
            · exact Iff.rfl
        rw [meet] at same
        rw [same, ih]
        simp [mine]

/-- In rows that stand in a strict order, a key has a second row where two of its
rows do. -/
theorem mem_keys_seconds_iff_of_pairwise {order : Row → Row → Prop}
    (irrefl : ∀ row, ¬ order row row) {rows : List Row} (sorted : rows.Pairwise order)
    (value : Key) :
    value ∈ (pass key rows).seconds.map key ↔
      ∃ first ∈ rows, ∃ second ∈ rows,
        (key first = value ∧ key second = value) ∧ order first second := by
  rw [mem_keys_seconds_iff, List.countP_eq_length_filter]
  have mem_here {row : Row} : row ∈ (rows.filter fun row => key row = value) ↔
      row ∈ rows ∧ key row = value := by
    rw [List.mem_filter, decide_eq_true_eq]
  have chain := sorted.filter fun row => key row = value
  generalize (rows.filter fun row => key row = value) = here at mem_here chain
  constructor
  · intro two
    match here with
    | [] => simp at two
    | [_] => simp at two
    | first :: second :: rest =>
        obtain ⟨inFirst, mineFirst⟩ := mem_here.mp List.mem_cons_self
        obtain ⟨inSecond, mineSecond⟩ := mem_here.mp (List.mem_cons_of_mem _ List.mem_cons_self)
        exact ⟨first, inFirst, second, inSecond, ⟨mineFirst, mineSecond⟩,
          List.rel_of_pairwise_cons chain List.mem_cons_self⟩
  · rintro ⟨first, inFirst, second, inSecond, ⟨mineFirst, mineSecond⟩, ordered⟩
    have one := mem_here.mpr ⟨inFirst, mineFirst⟩
    have two := mem_here.mpr ⟨inSecond, mineSecond⟩
    match here with
    | [] => cases one
    | [only] =>
        rw [List.mem_singleton] at one two
        rw [one, two] at ordered
        exact absurd ordered (irrefl only)
    | _ :: _ :: _ => simp

end FirstTwo

end Foundation
