import RssiService.Foundation.Outcome

/-!
# Traversals that stop

A traversal visits the items of a list in order and stops at the first visit
that fails.  It succeeds when each visit does, and fails as the first of them
does that fails.
-/

namespace Foundation.Traversal

open Outcome

/-! ## Outcomes -/

section Outcomes

variable {Error First Second : Type} {Kind : Error → Prop}

/-- The operation gives a result. -/
def Succeeds (outcome : Except Error First) : Prop := ∃ result, outcome = .ok result

/-- The operation fails, with an error of a kind. -/
def Fails (Kind : Error → Prop) (outcome : Except Error First) : Prop :=
  ∃ error, outcome = .error error ∧ Kind error

@[simp]
theorem succeeds_ok (result : First) : Succeeds (.ok result : Except Error First) := ⟨result, rfl⟩

@[simp]
theorem succeeds_pure (result : First) : Succeeds (pure result : Except Error First) :=
  ⟨result, rfl⟩

@[simp]
theorem not_succeeds_error (error : Error) : ¬ Succeeds (.error error : Except Error First) := by
  rintro ⟨result, ⟨⟩⟩

@[simp]
theorem not_fails_ok (result : First) : ¬ Fails Kind (.ok result : Except Error First) := by
  rintro ⟨error, ⟨⟩, _⟩

@[simp]
theorem not_fails_pure (result : First) : ¬ Fails Kind (pure result : Except Error First) :=
  not_fails_ok result

@[simp]
theorem fails_error_iff {error : Error} :
    Fails Kind (.error error : Except Error First) ↔ Kind error := by
  constructor
  · rintro ⟨other, same, kind⟩
    rwa [Except.error.inj same]
  · exact fun kind => ⟨error, rfl, kind⟩

theorem succeeds_bind_iff {first : Except Error First} {next : First → Except Error Second} :
    Succeeds (first >>= next) ↔ ∃ value, first = .ok value ∧ Succeeds (next value) := by
  constructor
  · rintro ⟨result, done⟩
    obtain ⟨value, given, done⟩ := bind_eq_ok.mp done
    exact ⟨value, given, result, done⟩
  · rintro ⟨value, given, result, done⟩
    exact ⟨result, bind_eq_ok.mpr ⟨value, given, done⟩⟩

theorem fails_bind_iff {first : Except Error First} {next : First → Except Error Second} :
    Fails Kind (first >>= next) ↔
      Fails Kind first ∨ ∃ value, first = .ok value ∧ Fails Kind (next value) := by
  constructor
  · rintro ⟨error, failed, kind⟩
    rcases bind_eq_error.mp failed with here | ⟨value, given, later⟩
    · exact .inl ⟨error, here, kind⟩
    · exact .inr ⟨value, given, error, later, kind⟩
  · rintro (⟨error, failed, kind⟩ | ⟨value, given, error, failed, kind⟩)
    · exact ⟨error, bind_eq_error.mpr (.inl failed), kind⟩
    · exact ⟨error, bind_eq_error.mpr (.inr ⟨value, given, failed⟩), kind⟩

/-- A result that the next operation needs only to be there. -/
theorem succeeds_then_iff {first : Except Error First} {next : First → Except Error Second}
    {P : Prop} (later : ∀ value, first = .ok value → (Succeeds (next value) ↔ P)) :
    Succeeds (first >>= next) ↔ Succeeds first ∧ P := by
  rw [succeeds_bind_iff]
  constructor
  · rintro ⟨value, given, done⟩
    exact ⟨⟨value, given⟩, (later value given).mp done⟩
  · rintro ⟨⟨value, given⟩, holds⟩
    exact ⟨value, given, (later value given).mpr holds⟩

theorem fails_then_iff {first : Except Error First} {next : First → Except Error Second}
    {P : Prop} (later : ∀ value, first = .ok value → (Fails Kind (next value) ↔ P)) :
    Fails Kind (first >>= next) ↔ Fails Kind first ∨ Succeeds first ∧ P := by
  rw [fails_bind_iff]
  refine or_congr_right ⟨?_, ?_⟩
  · rintro ⟨value, given, failed⟩
    exact ⟨⟨value, given⟩, (later value given).mp failed⟩
  · rintro ⟨⟨value, given⟩, holds⟩
    exact ⟨value, given, (later value given).mpr holds⟩

@[simp]
theorem succeeds_map_iff {outcome : Except Error First} {change : First → Second} :
    Succeeds (outcome.map change) ↔ Succeeds outcome := by
  cases outcome <;> simp [Except.map]

@[simp]
theorem fails_map_iff {outcome : Except Error First} {change : First → Second} :
    Fails Kind (outcome.map change) ↔ Fails Kind outcome := by
  cases outcome <;> simp [Except.map]

@[simp]
theorem succeeds_mapError_iff {Other : Type} {outcome : Except Error First}
    {change : Error → Other} : Succeeds (outcome.mapError change) ↔ Succeeds outcome := by
  cases outcome <;> simp [Except.mapError]

@[simp]
theorem fails_mapError_iff {Other : Type} {Kind : Other → Prop} {outcome : Except Error First}
    {change : Error → Other} :
    Fails Kind (outcome.mapError change) ↔ Fails (fun error => Kind (change error)) outcome := by
  cases outcome <;> simp [Except.mapError]

theorem mapError_eq_ok_iff {Other : Type} {outcome : Except Error First} {change : Error → Other}
    {result : First} : outcome.mapError change = .ok result ↔ outcome = .ok result := by
  cases outcome <;> simp [Except.mapError]

end Outcomes

/-! ## Traversals -/

variable {Error Item Result : Type} {visit : Item → Except Error Result} {items : List Item}

theorem mapM_eq_ok_iff {results : List Result} :
    items.mapM visit = .ok results ↔
      List.Forall₂ (fun item result => visit item = .ok result) items results := by
  induction items generalizing results with
  | nil =>
      rw [List.forall₂_nil_left_iff]
      exact ⟨fun done => (Except.ok.inj done).symm, fun same => congrArg Except.ok same.symm⟩
  | cons item rest ih =>
      rw [List.mapM_cons, List.forall₂_cons_left_iff]
      constructor
      · intro done
        obtain ⟨first, visited, done⟩ := bind_eq_ok.mp done
        obtain ⟨later, all, whole⟩ := bind_eq_ok.mp done
        exact ⟨first, later, visited, ih.mp all, (Except.ok.inj whole).symm⟩
      · rintro ⟨first, later, visited, all, rfl⟩
        exact bind_eq_ok.mpr ⟨first, visited, bind_eq_ok.mpr ⟨later, ih.mpr all, rfl⟩⟩

/-- Every visit succeeds. -/
theorem succeeds_mapM_iff :
    Succeeds (items.mapM visit) ↔ ∀ item ∈ items, Succeeds (visit item) := by
  induction items with
  | nil => exact iff_of_true ⟨[], rfl⟩ fun item absent => absurd absent List.not_mem_nil
  | cons item rest ih =>
      rw [List.forall_mem_cons, ← ih]
      constructor
      · rintro ⟨results, done⟩
        obtain ⟨first, later, visited, all, rfl⟩ :=
          List.forall₂_cons_left_iff.mp (mapM_eq_ok_iff.mp done)
        exact ⟨⟨first, visited⟩, later, mapM_eq_ok_iff.mpr all⟩
      · rintro ⟨⟨first, visited⟩, later, all⟩
        exact ⟨first :: later, mapM_eq_ok_iff.mpr (.cons visited (mapM_eq_ok_iff.mp all))⟩

/-- What is seen of the results, when each visit shows something of its item alone. -/
theorem map_eq_of_mapM {Seen : Type} {seen : Result → Seen} {value : Item → Seen}
    (each : ∀ item result, visit item = .ok result → seen result = value item)
    {results : List Result} (all : items.mapM visit = .ok results) :
    results.map seen = items.map value := by
  have related := mapM_eq_ok_iff.mp all
  induction related with
  | nil => rfl
  | cons visited related ih =>
      rw [List.map_cons, List.map_cons, each _ _ visited, ih (mapM_eq_ok_iff.mpr related)]

/-- A visit that gives something of its item alone. -/
theorem mapM_eq_ok_of_map {value : Item → Result}
    (each : ∀ item result, visit item = .ok result → result = value item)
    {results : List Result} (all : items.mapM visit = .ok results) :
    results = items.map value :=
  (List.map_id results).symm.trans (map_eq_of_mapM each all)

/-- What the visits give has a property when the items have one. -/
theorem forall_mapM_iff {P : Result → Prop} {Q : Item → Prop}
    (each : ∀ item result, visit item = .ok result → (P result ↔ Q item))
    {results : List Result} (all : items.mapM visit = .ok results) :
    (∀ result ∈ results, P result) ↔ ∀ item ∈ items, Q item := by
  have related := mapM_eq_ok_iff.mp all
  induction related with
  | nil => exact iff_of_true (List.forall_mem_nil _) (List.forall_mem_nil _)
  | cons visited related ih =>
      rw [List.forall_mem_cons, List.forall_mem_cons]
      exact and_congr (each _ _ visited) (ih (mapM_eq_ok_iff.mpr related))

/-- What is asked of numbered items without their numbers. -/
theorem forall_mem_zipIdx_iff (items : List Item) (first : Nat) {P : Item → Prop} :
    (∀ numbered ∈ items.zipIdx first, P numbered.1) ↔ ∀ item ∈ items, P item := by
  rw [← List.forall_mem_map (f := Prod.fst), List.zipIdx_map_fst]

/-- The items are fine up to one that stops the traversal. -/
inductive Stops (Fine Bad : Item → Prop) : List Item → Prop
  | here {item : Item} {rest : List Item} : Bad item → Stops Fine Bad (item :: rest)
  | later {item : Item} {rest : List Item} :
      Fine item → Stops Fine Bad rest → Stops Fine Bad (item :: rest)

theorem stops_cons_iff {Fine Bad : Item → Prop} {item : Item} :
    Stops Fine Bad (item :: items) ↔ Bad item ∨ Fine item ∧ Stops Fine Bad items := by
  constructor
  · intro stops
    cases stops with
    | here bad => exact .inl bad
    | later fine rest => exact .inr ⟨fine, rest⟩
  · rintro (bad | ⟨fine, rest⟩)
    · exact .here bad
    · exact .later fine rest

/-- A traversal fails as its first visit does that gives no result. -/
theorem fails_mapM_iff {Fine Bad : Item → Prop} {Kind : Error → Prop}
    (fine : ∀ item, Succeeds (visit item) ↔ Fine item)
    (bad : ∀ item, Fails Kind (visit item) ↔ Bad item) :
    Fails Kind (items.mapM visit) ↔ Stops Fine Bad items := by
  induction items with
  | nil => exact iff_of_false (not_fails_pure _) (by rintro ⟨⟩)
  | cons item rest ih =>
      rw [List.mapM_cons, fails_bind_iff, bad, stops_cons_iff, ← fine, ← ih]
      refine or_congr_right ⟨?_, ?_⟩
      · rintro ⟨result, visited, failed⟩
        refine ⟨⟨result, visited⟩, ?_⟩
        rcases fails_bind_iff.mp failed with later | ⟨_, _, impossible⟩
        · exact later
        · exact absurd impossible (not_fails_pure _)
      · rintro ⟨⟨result, visited⟩, failed⟩
        exact ⟨result, visited, fails_bind_iff.mpr (.inl failed)⟩

end Foundation.Traversal
