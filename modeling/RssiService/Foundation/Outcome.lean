import Mathlib.Data.List.Forall2

/-!
# Successful outcomes

Fallible operations return `Except`, or `Option` where the failure says nothing.
A successful sequence is a sequence of successes.
-/

namespace Foundation.Outcome

variable {Error First Second : Type}

theorem bind_eq_ok {first : Except Error First} {next : First → Except Error Second}
    {result : Second} :
    (first >>= next) = .ok result ↔ ∃ value, first = .ok value ∧ next value = .ok result := by
  cases first with
  | error failure =>
      constructor
      · intro impossible
        cases impossible
      · rintro ⟨value, impossible, _⟩
        cases impossible
  | ok value =>
      constructor
      · intro success
        exact ⟨value, rfl, success⟩
      · rintro ⟨other, same, success⟩
        cases same
        exact success

theorem bind_eq_error {first : Except Error First} {next : First → Except Error Second}
    {failure : Error} :
    (first >>= next) = .error failure ↔
      first = .error failure ∨ ∃ value, first = .ok value ∧ next value = .error failure := by
  cases first with
  | error other =>
      constructor
      · intro same
        exact .inl (congrArg Except.error (Except.error.inj same))
      · rintro (same | ⟨value, impossible, _⟩)
        · exact congrArg Except.error (Except.error.inj same)
        · cases impossible
  | ok value =>
      constructor
      · intro failed
        exact .inr ⟨value, rfl, failed⟩
      · rintro (impossible | ⟨other, same, failed⟩)
        · cases impossible
        · cases same
          exact failed

theorem map_eq_ok {first : Except Error First} {change : First → Second} {result : Second} :
    first.map change = .ok result ↔ ∃ value, first = .ok value ∧ change value = result := by
  cases first with
  | error failure => simp [Except.map]
  | ok value => simp [Except.map]

/-- What a successful traversal collects comes from its items. -/
theorem exists_of_mem_mapM {visit : First → Option Second} {items : List First}
    {results : List Second} (all : items.mapM visit = some results) {result : Second}
    (member : result ∈ results) : ∃ item ∈ items, visit item = some result := by
  induction items generalizing results with
  | nil =>
      cases all
      cases member
  | cons item rest ih =>
      simp only [List.mapM_cons, Option.bind_eq_bind, Option.bind_eq_some_iff] at all
      obtain ⟨first, visited, later, visitedLater, whole⟩ := all
      cases whole
      rcases List.mem_cons.mp member with rfl | inLater
      · exact ⟨item, List.mem_cons_self, visited⟩
      · obtain ⟨other, known, found⟩ := ih visitedLater inLater
        exact ⟨other, List.mem_cons_of_mem item known, found⟩

theorem mem_of_mapM {visit : First → Option Second} {items : List First} {results : List Second}
    (all : items.mapM visit = some results) {item : First} (member : item ∈ items)
    {result : Second} (visited : visit item = some result) : result ∈ results := by
  induction items generalizing results with
  | nil => cases member
  | cons head rest ih =>
      simp only [List.mapM_cons, Option.bind_eq_bind, Option.bind_eq_some_iff] at all
      obtain ⟨first, visitedFirst, later, visitedLater, whole⟩ := all
      cases whole
      rcases List.mem_cons.mp member with rfl | inRest
      · cases visitedFirst.symm.trans visited
        exact List.mem_cons_self
      · exact List.mem_cons_of_mem _ (ih visitedLater inRest)

/-- A traversal whose every visit succeeds collects the results in order. -/
theorem exists_mapM {visit : First → Option Second} {items : List First}
    {R : First → Second → Prop}
    (each : ∀ item ∈ items, ∃ result, visit item = some result ∧ R item result) :
    ∃ results, items.mapM visit = some results ∧ List.Forall₂ R items results := by
  induction items with
  | nil => exact ⟨[], rfl, .nil⟩
  | cons item rest ih =>
      obtain ⟨result, visited, related⟩ := each item List.mem_cons_self
      obtain ⟨results, all, later⟩ :=
        ih fun other member => each other (List.mem_cons_of_mem _ member)
      refine ⟨result :: results, ?_, .cons related later⟩
      rw [List.mapM_cons, visited, all]
      rfl

/-- A traversal fails where one of its visits does. -/
theorem mapM_ne_none_iff {visit : First → Option Second} {items : List First} :
    items.mapM visit ≠ none ↔ ∀ item ∈ items, visit item ≠ none := by
  induction items with
  | nil => exact iff_of_true (by rintro ⟨⟩) fun item member => absurd member List.not_mem_nil
  | cons item rest ih =>
      rw [List.forall_mem_cons, ← ih, List.mapM_cons]
      cases visit item with
      | none => exact iff_of_false (fun ne => ne rfl) fun both => both.1 rfl
      | some first =>
          cases rest.mapM visit with
          | none => exact iff_of_false (fun ne => ne rfl) fun both => both.2 rfl
          | some later => exact iff_of_true (by rintro ⟨⟩) ⟨by rintro ⟨⟩, by rintro ⟨⟩⟩

/-- In a traversal that succeeds every visit does. -/
theorem exists_of_mapM {visit : First → Option Second} {items : List First}
    {results : List Second} (all : items.mapM visit = some results) {item : First}
    (known : item ∈ items) : ∃ result, visit item = some result := by
  refine Option.ne_none_iff_exists'.mp (mapM_ne_none_iff.mp ?_ item known)
  rw [all]
  rintro ⟨⟩

/-- What is read of each result stands for its item. -/
theorem map_of_mapM {Third : Type*} {visit : First → Option Second} {read : Second → Third}
    {value : First → Third} {items : List First} {results : List Second}
    (all : items.mapM visit = some results)
    (each : ∀ item result, visit item = some result → read result = value item) :
    results.map read = items.map value := by
  induction items generalizing results with
  | nil =>
      cases all
      rfl
  | cons item rest ih =>
      simp only [List.mapM_cons, Option.bind_eq_bind, Option.bind_eq_some_iff] at all
      obtain ⟨first, visited, later, visitedLater, whole⟩ := all
      cases whole
      rw [List.map_cons, List.map_cons, each item first visited, ih visitedLater]

theorem length_of_mapM {visit : First → Option Second} {items : List First}
    {results : List Second} (all : items.mapM visit = some results) :
    results.length = items.length := by
  have same : results.map (fun _ => ()) = items.map fun _ => () :=
    map_of_mapM all fun _ _ _ => rfl
  simpa using congrArg List.length same

/-- Something holds of a result where it holds of the result of an item. -/
theorem exists_mem_mapM_iff {visit : First → Option Second} {items : List First}
    {results : List Second} (all : items.mapM visit = some results) {P : Second → Prop} :
    (∃ result ∈ results, P result) ↔
      ∃ item ∈ items, ∃ result, visit item = some result ∧ P result := by
  constructor
  · rintro ⟨result, member, holds⟩
    obtain ⟨item, known, visited⟩ := exists_of_mem_mapM all member
    exact ⟨item, known, result, visited, holds⟩
  · rintro ⟨item, known, result, visited, holds⟩
    exact ⟨result, mem_of_mapM all known visited, holds⟩

/-- What is read of the results can be read at each item. -/
theorem map_mapM {Third : Type*} (visit : First → Option Second) (read : Second → Third)
    (items : List First) :
    (items.mapM visit).map (List.map read) = items.mapM fun item => (visit item).map read := by
  induction items with
  | nil => rfl
  | cons item rest ih =>
      rw [List.mapM_cons, List.mapM_cons, ← ih]
      cases visit item with
      | none => rfl
      | some first => cases rest.mapM visit <;> rfl

theorem exists_of_mem_mapM_ok {visit : First → Except Error Second} {items : List First}
    {results : List Second} (all : items.mapM visit = .ok results) {result : Second}
    (member : result ∈ results) : ∃ item ∈ items, visit item = .ok result := by
  induction items generalizing results with
  | nil =>
      cases all
      cases member
  | cons item rest ih =>
      rw [List.mapM_cons] at all
      obtain ⟨first, visited, all⟩ := bind_eq_ok.mp all
      obtain ⟨later, visitedLater, whole⟩ := bind_eq_ok.mp all
      cases whole
      rcases List.mem_cons.mp member with rfl | inLater
      · exact ⟨item, List.mem_cons_self, visited⟩
      · obtain ⟨other, known, found⟩ := ih visitedLater inLater
        exact ⟨other, List.mem_cons_of_mem item known, found⟩

/-- What each write of a successful sequence brings about, the sequence brings about. -/
theorem related_foldlM {State Value : Type*} {write : State → Value → Option State}
    {R : State → State → Prop} (refl : ∀ state, R state state)
    (trans : ∀ {first second third}, R first second → R second third → R first third)
    (each : ∀ state value after, write state value = some after → R state after)
    {values : List Value} {state after : State}
    (written : values.foldlM write state = some after) : R state after := by
  induction values generalizing state with
  | nil =>
      obtain rfl := Option.some.inj written
      exact refl state
  | cons value rest ih =>
      rw [List.foldlM_cons, Option.bind_eq_bind, Option.bind_eq_some_iff] at written
      obtain ⟨middle, first, later⟩ := written
      exact trans (each state value middle first) (ih later)

/-- What each write of a successful sequence preserves, the sequence preserves. -/
theorem holds_foldlM {State Value : Type*} {write : State → Value → Option State}
    {P : State → Prop} {values : List Value}
    (keeps : ∀ value ∈ values, ∀ state after, P state → write state value = some after → P after)
    {state after : State} (holds : P state) (written : values.foldlM write state = some after) :
    P after := by
  induction values generalizing state with
  | nil =>
      obtain rfl := Option.some.inj written
      exact holds
  | cons value rest ih =>
      rw [List.foldlM_cons, Option.bind_eq_bind, Option.bind_eq_some_iff] at written
      obtain ⟨middle, first, later⟩ := written
      have next := keeps value List.mem_cons_self state middle holds first
      exact ih (fun other listed => keeps other (List.mem_cons_of_mem value listed)) next later

/-- Sequences of writes that agree at each step, refusals included, agree as a whole. -/
theorem rel_foldlM {State Other Value : Type*} {write : State → Value → Option State}
    {copy : Other → Value → Option Other} {R : State → Other → Prop} {values : List Value}
    (each : ∀ value ∈ values, ∀ state other, R state other →
      Option.Rel R (write state value) (copy other value))
    {state : State} {other : Other} (start : R state other) :
    Option.Rel R (values.foldlM write state) (values.foldlM copy other) := by
  induction values generalizing state other with
  | nil => exact .some start
  | cons value rest ih =>
      rw [List.foldlM_cons, List.foldlM_cons]
      have here := each value List.mem_cons_self state other start
      cases first : write state value with
      | none =>
          rw [first] at here
          generalize copied : copy other value = second at here
          cases here
          exact .none
      | some after =>
          rw [first] at here
          generalize copied : copy other value = second at here
          cases here with
          | some related =>
              exact ih (fun later member => each later (List.mem_cons_of_mem value member)) related

end Foundation.Outcome
