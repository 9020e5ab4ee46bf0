import Mathlib.Data.List.Basic

/-!
# Latches

A latch is set by a number of bad readings in a row and released by one good
reading.  Readings that are neither leave it as it is.
-/

namespace Foundation.Latch

variable {Reading : Type*} {bad good : Reading → Prop} {count : Nat} {readings : List Reading}
  {reading : Reading}

/-- Some `count` readings in a row were all bad, and none since was good. -/
def Latched (bad good : Reading → Prop) (count : Nat) (readings : List Reading) : Prop :=
  ∃ earlier streak later, readings = earlier ++ streak ++ later ∧ streak.length = count ∧
    (∀ reading ∈ streak, bad reading) ∧ ∀ reading ∈ later, ¬ good reading

/-- The last `count` readings are all bad. -/
def Streak (bad : Reading → Prop) (count : Nat) (readings : List Reading) : Prop :=
  ∃ earlier streak, readings = earlier ++ streak ∧ streak.length = count ∧
    ∀ reading ∈ streak, bad reading

/-- A streak is read from the end. -/
theorem streak_iff :
    Streak bad count readings ↔
      count ≤ readings.length ∧ ∀ reading ∈ readings.reverse.take count, bad reading := by
  constructor
  · rintro ⟨earlier, streak, rfl, rfl, bads⟩
    refine ⟨by rw [List.length_append]; exact Nat.le_add_left _ _, ?_⟩
    rw [List.reverse_append, List.take_left' List.length_reverse]
    exact fun reading listed => bads reading (List.mem_reverse.mp listed)
  · rintro ⟨enough, bads⟩
    refine ⟨readings.take (readings.length - count), readings.drop (readings.length - count),
      (List.take_append_drop _ _).symm, ?_, ?_⟩
    · rw [List.length_drop]
      omega
    · rw [List.take_reverse] at bads
      exact fun reading listed => bads reading (List.mem_reverse.mpr listed)

theorem not_latched_nil (positive : 0 < count) : ¬ Latched bad good count [] := by
  rintro ⟨earlier, streak, later, whole, rfl, _⟩
  have empty := List.append_eq_nil_iff.mp (List.append_eq_nil_iff.mp whole.symm).1
  rw [empty.2] at positive
  exact Nat.lt_irrefl 0 positive

/-- A good reading releases the latch. -/
theorem not_latched_append_of_good (positive : 0 < count) (apart : good reading → ¬ bad reading)
    (healthy : good reading) : ¬ Latched bad good count (readings ++ [reading]) := by
  rintro ⟨earlier, streak, later, whole, rfl, bads, unreleased⟩
  rcases List.eq_nil_or_concat' later with rfl | ⟨init, last, rfl⟩
  · rcases List.eq_nil_or_concat' streak with rfl | ⟨init, last, rfl⟩
    · exact Nat.lt_irrefl 0 positive
    · rw [List.append_nil, ← List.append_assoc] at whole
      have same : reading = last := by simpa using (List.append_inj' whole rfl).2
      refine apart healthy (bads reading ?_)
      rw [same]
      exact List.mem_concat_self
  · rw [← List.append_assoc] at whole
    have same : reading = last := by simpa using (List.append_inj' whole rfl).2
    refine unreleased reading ?_ healthy
    rw [same]
    exact List.mem_concat_self

/-- Any other reading leaves the latch as it is, or sets it with those before. -/
theorem latched_append_of_not_good (unhealthy : ¬ good reading) :
    Latched bad good count (readings ++ [reading]) ↔
      Latched bad good count readings ∨ Streak bad count (readings ++ [reading]) := by
  constructor
  · rintro ⟨earlier, streak, later, whole, size, bads, unreleased⟩
    rcases List.eq_nil_or_concat' later with rfl | ⟨init, last, rfl⟩
    · exact Or.inr ⟨earlier, streak, by rw [whole, List.append_nil], size, bads⟩
    · rw [← List.append_assoc] at whole
      refine Or.inl ⟨earlier, streak, init, (List.append_inj' whole rfl).1, size, bads, ?_⟩
      intro reading listed
      exact unreleased reading (List.mem_append_left _ listed)
  · rintro (⟨earlier, streak, later, rfl, size, bads, unreleased⟩ |
      ⟨earlier, streak, whole, size, bads⟩)
    · refine ⟨earlier, streak, later ++ [reading], (List.append_assoc _ _ _), size, bads, ?_⟩
      intro other listed
      rcases List.mem_append.mp listed with old | new
      · exact unreleased other old
      · rw [List.mem_singleton.mp new]
        exact unhealthy
    · exact ⟨earlier, streak, [], by rw [whole, List.append_nil], size, bads,
        fun _ none => absurd none List.not_mem_nil⟩

end Foundation.Latch
