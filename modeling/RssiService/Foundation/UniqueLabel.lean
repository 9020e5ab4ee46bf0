import RssiService.Foundation.Table

/-!
# Labels that one live row carries

A label belongs to one live row of a table at most.  A row that is created, or
rewritten, keeps it so exactly where no other live row carries the label it has
when it is live.
-/

namespace Foundation.Table

variable {Row Label : Type*} [Identified Row] {live : Row → Prop} {label : Row → Label}
  {table : Table Row} {key : Nat}

/-- Two live rows with one label are one row. -/
def UniqueLive (live : Row → Prop) (label : Row → Label) (table : Table Row) : Prop :=
  ∀ first ∈ table, ∀ second ∈ table, live first → live second → label first = label second →
    first = second

/-- No live row carries the label, the row of the given key apart. -/
def Vacant (live : Row → Prop) (label : Row → Label) (table : Table Row) (wanted : Label)
    (key : Nat) : Prop :=
  ∀ row ∈ table, live row → ident row ≠ key → label row ≠ wanted

theorem vacant_next_iff {wanted : Label} :
    Vacant live label table wanted table.next ↔ ∀ row ∈ table, live row → label row ≠ wanted := by
  constructor
  · intro vacant row inside alive
    exact vacant row inside alive (Nat.ne_of_lt (table.allocated row inside))
  · intro absent row inside alive _
    exact absent row inside alive

theorem uniqueLive_create_iff {build : Nat → Row} {ident_build : ∀ key, ident (build key) = key}
    (unique : UniqueLive live label table) :
    UniqueLive live label (table.create build ident_build) ↔
      (live (build table.next) →
        Vacant live label table (label (build table.next)) table.next) := by
  rw [vacant_next_iff]
  constructor
  · intro after alive row inside other same
    have merged := after row (mem_create.mpr (Or.inl inside)) _ (mem_create.mpr (Or.inr rfl)) other
      alive same
    have below := table.allocated row inside
    rw [merged, ident_build] at below
    exact Nat.lt_irrefl _ below
  · intro vacant first inFirst second inSecond liveFirst liveSecond same
    rcases mem_create.mp inFirst with oldFirst | rfl
    · rcases mem_create.mp inSecond with oldSecond | rfl
      · exact unique first oldFirst second oldSecond liveFirst liveSecond same
      · exact absurd same (vacant liveSecond first oldFirst liveFirst)
    · rcases mem_create.mp inSecond with oldSecond | rfl
      · exact absurd same.symm (vacant liveFirst second oldSecond liveSecond)
      · rfl

theorem mem_modify_of_ne {change : Row → Row} {keeps : ∀ row, ident (change row) = ident row}
    {row : Row} (inside : row ∈ table) (apart : ident row ≠ key) :
    row ∈ table.modify key change keeps :=
  mem_modify.mpr ⟨row, inside, if_neg apart⟩

theorem mem_modify_cases {change : Row → Row} {keeps : ∀ row, ident (change row) = ident row}
    {row other : Row} (found : table.find? key = some row)
    (inside : other ∈ table.modify key change keeps) :
    other = change row ∨ other ∈ table ∧ ident other ≠ key := by
  obtain ⟨source, old, rfl⟩ := mem_modify.mp inside
  by_cases here : ident source = key
  · rw [if_pos here]
    have same : source = row :=
      ident_injective old (mem_of_find? found) (here.trans (ident_of_find? found).symm)
    exact Or.inl (congrArg change same)
  · rw [if_neg here]
    exact Or.inr ⟨old, here⟩

theorem uniqueLive_modify_iff {change : Row → Row} {keeps : ∀ row, ident (change row) = ident row}
    {row : Row} (unique : UniqueLive live label table) (found : table.find? key = some row) :
    UniqueLive live label (table.modify key change keeps) ↔
      (live (change row) → Vacant live label table (label (change row)) key) := by
  have changed : change row ∈ table.modify key change keeps :=
    mem_modify.mpr ⟨row, mem_of_find? found, if_pos (ident_of_find? found)⟩
  constructor
  · intro after alive other inside liveOther apart same
    have merged := after other (mem_modify_of_ne inside apart) (change row) changed liveOther alive
      same
    apply apart
    rw [merged, keeps]
    exact ident_of_find? found
  · intro vacant first inFirst second inSecond liveFirst liveSecond same
    rcases mem_modify_cases found inFirst with rfl | ⟨oldFirst, apartFirst⟩
    · rcases mem_modify_cases found inSecond with rfl | ⟨oldSecond, apartSecond⟩
      · rfl
      · exact absurd same.symm (vacant liveFirst second oldSecond liveSecond apartSecond)
    · rcases mem_modify_cases found inSecond with rfl | ⟨oldSecond, apartSecond⟩
      · exact absurd same (vacant liveSecond first oldFirst liveFirst apartFirst)
      · exact unique first oldFirst second oldSecond liveFirst liveSecond same

theorem UniqueLive.create {build : Nat → Row} (unique : UniqueLive live label table)
    (ident_build : ∀ key, ident (build key) = key)
    (vacant : Vacant live label table (label (build table.next)) table.next) :
    UniqueLive live label (table.create build ident_build) :=
  (uniqueLive_create_iff unique).mpr fun _ => vacant

theorem UniqueLive.deleteWhere {selected : Row → Bool} (unique : UniqueLive live label table) :
    UniqueLive live label (table.deleteWhere selected) := by
  intro first inFirst second inSecond
  exact unique first (mem_deleteWhere.mp inFirst).1 second (mem_deleteWhere.mp inSecond).1

theorem UniqueLive.put {row : Row} (unique : UniqueLive live label table)
    (vacant : Vacant live label table (label row) (ident row)) :
    UniqueLive live label (table.put row) := by
  intro first inFirst second inSecond liveFirst liveSecond same
  rcases mem_put.mp inFirst with rfl | ⟨oldFirst, apartFirst⟩
  · rcases mem_put.mp inSecond with rfl | ⟨oldSecond, apartSecond⟩
    · rfl
    · exact absurd same.symm (vacant second oldSecond liveSecond apartSecond)
  · rcases mem_put.mp inSecond with rfl | ⟨oldSecond, apartSecond⟩
    · exact absurd same (vacant first oldFirst liveFirst apartFirst)
    · exact unique first oldFirst second oldSecond liveFirst liveSecond same

/-- A row that keeps its label keeps it alone. -/
theorem vacant_of_mem {row : Row} (unique : UniqueLive live label table) (inside : row ∈ table)
    (alive : live row) : Vacant live label table (label row) (ident row) := by
  intro other inOther liveOther apart same
  exact apart (congrArg ident (unique other inOther row inside liveOther alive same))

/-- Among more candidates than there are rows, one is the label of no row. -/
theorem exists_free_label [DecidableEq Label] (table : Table Row) (label : Row → Label)
    {candidates : List Label} (distinct : candidates.Nodup)
    (more : table.rows.length < candidates.length) :
    ∃ wanted, (candidates.find? fun candidate =>
      !table.rows.any fun row => label row = candidate) = some wanted ∧
        ∀ row ∈ table, label row ≠ wanted := by
  cases found : candidates.find? fun candidate =>
      !table.rows.any fun row => label row = candidate with
  | some wanted =>
      have free := List.find?_some found
      simp only [Bool.not_eq_true', List.any_eq_false, decide_eq_true_eq] at free
      exact ⟨wanted, rfl, free⟩
  | none =>
      have covered : candidates ⊆ table.rows.map label := by
        intro candidate member
        have carried := List.find?_eq_none.mp found candidate member
        simp only [Bool.not_eq_true, Bool.not_eq_false', List.any_eq_true,
          decide_eq_true_eq] at carried
        obtain ⟨row, held, rfl⟩ := carried
        exact List.mem_map_of_mem held
      have fewer := (List.subperm_of_subset distinct covered).length_le
      rw [List.length_map] at fewer
      exact absurd fewer (Nat.not_le.mpr more)

/-! ## Numbered labels -/

/-- A text followed by a rank. -/
def numbered (base : String) (rank : Nat) : String := base ++ "-" ++ toString (rank + 2)

theorem numbered_injective (base : String) : Function.Injective (numbered base) := by
  intro first second same
  have digits : toString (first + 2) = toString (second + 2) := by
    have texts := congrArg String.toList same
    simp only [numbered, String.toList_append] at texts
    exact String.toList_inj.mp (List.append_cancel_left texts)
  have ranks : first + 2 = second + 2 := by
    rw [← Nat.ofDigitChars_ten_toDigits (n := first + 2),
      ← Nat.ofDigitChars_ten_toDigits (n := second + 2)]
    exact congrArg _ (String.ofList_inj.mp digits)
  omega

theorem numbered_ne (base : String) (rank : Nat) : numbered base rank ≠ base := by
  intro same
  have lengths := congrArg String.length same
  simp only [numbered, String.length_append] at lengths
  have dash : "-".length = 1 := by decide
  omega

/-- The text and as many numbered ones as there are rows: one of them is free. -/
theorem exists_free_numbered (table : Table Row) (label : Row → String) (base : String) :
    ∃ wanted, ((base :: (List.range table.rows.length).map (numbered base)).find? fun candidate =>
      !table.rows.any fun row => label row = candidate) = some wanted ∧
        ∀ row ∈ table, label row ≠ wanted := by
  refine exists_free_label table label ?_ (by simp)
  refine List.nodup_cons.mpr ⟨?_, List.nodup_range.map (numbered_injective base)⟩
  intro member
  obtain ⟨rank, _, same⟩ := List.mem_map.mp member
  exact numbered_ne base rank same

end Foundation.Table
