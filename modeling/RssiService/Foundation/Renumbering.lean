import Mathlib.Data.List.Basic
import Mathlib.Logic.Function.Basic

/-!
# Renumbering under a uniqueness constraint

Keys hold ranks, and two keys never hold the same one.  A list of keys is given
consecutive ranks, one key after the other: a rank that another key still holds
is refused.
-/

namespace Foundation.Renumbering

variable {Key : Type*} [DecidableEq Key]

/-- Give a key a rank, unless another key holds it. -/
def assign (keys : List Key) (rank : Key → Nat) (given : Key × Nat) : Option (Key → Nat) :=
  if ∃ other ∈ keys, other ≠ given.1 ∧ rank other = given.2 then none
  else some (Function.update rank given.1 given.2)

/-- The ranks once the keys of a list hold consecutive ones. -/
def renumbered (rank : Key → Nat) (order : List Key) (base : Nat) (key : Key) : Nat :=
  if key ∈ order then base + order.idxOf key else rank key

/-- In a list without repetition, the keys stand at their own places. -/
theorem map_idxOf {order : List Key} (nodup : order.Nodup) :
    order.map order.idxOf = List.range order.length := by
  apply List.ext_getElem
  · simp
  · intro place inside _
    rw [List.getElem_map, List.getElem_range]
    exact nodup.idxOf_getElem place _

/-- No key holds a rank that is given before its turn. -/
def Clear (keys : List Key) (rank : Key → Nat) (order : List Key) (base : Nat) : Prop :=
  ∀ key ∈ keys, rank key < base ∨ base + order.idxOf key ≤ rank key

variable {keys order : List Key} {rank after : Key → Nat} {base : Nat}

theorem assign_eq_some_iff {key : Key} {value : Nat} :
    assign keys rank (key, value) = some after ↔
      (∀ other ∈ keys, other ≠ key → rank other ≠ value) ∧
        after = Function.update rank key value := by
  rw [assign]
  split
  · next taken =>
      obtain ⟨other, member, apart, same⟩ := taken
      refine iff_of_false (by simp) ?_
      intro both
      exact both.1 other member apart same
  · next free =>
      have apart : ∀ other ∈ keys, other ≠ key → rank other ≠ value := by
        intro other member different same
        exact free ⟨other, member, different, same⟩
      rw [Option.some.injEq, eq_comm, and_iff_right apart]

/-- The first key takes the first rank, and then the others are clear of it. -/
theorem clear_cons_iff {first : Key} {rest : List Key} :
    Clear keys rank (first :: rest) base ↔
      (∀ other ∈ keys, other ≠ first → rank other ≠ base) ∧
        Clear keys (Function.update rank first base) rest (base + 1) := by
  constructor
  · intro clear
    refine ⟨?_, ?_⟩
    · intro other member apart same
      have turn := clear other member
      rw [List.idxOf_cons_ne _ apart.symm] at turn
      omega
    · intro key member
      by_cases own : key = first
      · subst own
        rw [Function.update_self]
        exact Or.inl (Nat.lt_succ_self base)
      · have turn := clear key member
        rw [List.idxOf_cons_ne _ (Ne.symm own)] at turn
        rw [Function.update_of_ne own]
        omega
  · rintro ⟨free, clear⟩ key member
    by_cases own : key = first
    · subst own
      rw [List.idxOf_cons_self]
      omega
    · have turn := clear key member
      have apart := free key member own
      rw [Function.update_of_ne own] at turn
      rw [List.idxOf_cons_ne _ (Ne.symm own)]
      omega

theorem renumbered_cons {first : Key} {rest : List Key} (fresh : first ∉ rest) :
    renumbered rank (first :: rest) base =
      renumbered (Function.update rank first base) rest (base + 1) := by
  funext key
  unfold renumbered
  by_cases own : key = first
  · subst own
    rw [if_pos List.mem_cons_self, if_neg fresh, Function.update_self, List.idxOf_cons_self,
      Nat.add_zero]
  · rw [List.idxOf_cons_ne _ (Ne.symm own), Function.update_of_ne own]
    simp only [List.mem_cons, own, false_or]
    split
    · omega
    · rfl

/-- A pass goes through where no key holds a rank that is given before its turn. -/
theorem pass_eq_some_iff (nodup : order.Nodup) :
    (order.zipIdx base).foldlM (assign keys) rank = some after ↔
      Clear keys rank order base ∧ after = renumbered rank order base := by
  induction order generalizing rank base with
  | nil =>
      have clear : Clear keys rank [] base := fun key _ => by
        rw [List.idxOf_nil]
        omega
      have same : renumbered rank [] base = rank := by
        funext key
        simp [renumbered]
      rw [same, and_iff_right clear]
      exact Option.some_inj.trans eq_comm
  | cons first rest ih =>
      obtain ⟨fresh, rest_nodup⟩ := List.nodup_cons.mp nodup
      rw [List.zipIdx_cons, List.foldlM_cons, Option.bind_eq_bind, Option.bind_eq_some_iff,
        clear_cons_iff, renumbered_cons fresh]
      constructor
      · rintro ⟨middle, taken, later⟩
        obtain ⟨free, rfl⟩ := assign_eq_some_iff.mp taken
        obtain ⟨clear, rfl⟩ := (ih rest_nodup).mp later
        exact ⟨⟨free, clear⟩, rfl⟩
      · rintro ⟨⟨free, clear⟩, rfl⟩
        exact ⟨_, assign_eq_some_iff.mpr ⟨free, rfl⟩, (ih rest_nodup).mpr ⟨clear, rfl⟩⟩

/-- Two passes, the first beyond all ranks of the second, number the keys from one on
exactly where the first pass goes through. -/
theorem two_passes_eq_some_iff (nodup : order.Nodup) (all : ∀ key ∈ keys, key ∈ order) :
    (order.zipIdx (order.length + 1) ++ order.zipIdx 1).foldlM (assign keys) rank = some after ↔
      Clear keys rank order (order.length + 1) ∧ after = renumbered rank order 1 := by
  have second : Clear keys (renumbered rank order (order.length + 1)) order 1 := by
    intro key member
    rw [renumbered, if_pos (all key member)]
    omega
  have settled : renumbered (renumbered rank order (order.length + 1)) order 1 =
      renumbered rank order 1 := by
    funext key
    by_cases listed : key ∈ order
    · simp only [renumbered, if_pos listed]
    · simp only [renumbered, if_neg listed]
  rw [List.foldlM_append, Option.bind_eq_bind, Option.bind_eq_some_iff]
  constructor
  · rintro ⟨middle, first, later⟩
    obtain ⟨clear, rfl⟩ := (pass_eq_some_iff nodup).mp first
    obtain ⟨-, rfl⟩ := (pass_eq_some_iff nodup).mp later
    exact ⟨clear, settled⟩
  · rintro ⟨clear, rfl⟩
    refine ⟨_, (pass_eq_some_iff nodup).mpr ⟨clear, rfl⟩, ?_⟩
    exact (pass_eq_some_iff nodup).mpr ⟨second, settled.symm⟩

end Foundation.Renumbering
