import Mathlib.Data.List.Basic
import Mathlib.Logic.Function.Basic

/-!
# Keys held by who came first

Each key is held by the first owner that registered it.  Registering again, by
whomever, changes nothing, so what a register says of a key it says for good.
-/

namespace Foundation.FirstHolder

variable {Key Owner : Type*} [DecidableEq Key]

def register (holders : Key → Option Owner) (owner : Owner) (key : Key) : Key → Option Owner :=
  Function.update holders key (some ((holders key).getD owner))

def registerAll (holders : Key → Option Owner) (owner : Owner) (keys : List Key) :
    Key → Option Owner :=
  keys.foldl (fun holders key => register holders owner key) holders

/-- Every key keeps its holder. -/
def Extends (first second : Key → Option Owner) : Prop :=
  ∀ key owner, first key = some owner → second key = some owner

variable {first second third : Key → Option Owner} {key : Key} {keys : List Key}

theorem register_apply (holders : Key → Option Owner) (owner : Owner) (key other : Key) :
    register holders owner key other =
      if other = key then some ((holders key).getD owner) else holders other := by
  rw [register, Function.update_apply]

/-- After a list of keys, each of them is held by its former holder or by the owner. -/
theorem registerAll_apply (holders : Key → Option Owner) (owner : Owner) (keys : List Key)
    (other : Key) :
    registerAll holders owner keys other =
      if other ∈ keys then some ((holders other).getD owner) else holders other := by
  induction keys generalizing holders with
  | nil => simp [registerAll]
  | cons key rest ih =>
      have first := register_apply holders owner key other
      rw [registerAll, List.foldl_cons, ← registerAll, ih]
      by_cases same : other = key
      · subst same
        rw [if_pos rfl] at first
        simp [first]
      · rw [if_neg same] at first
        simp [first, same]

omit [DecidableEq Key] in
theorem Extends.refl (holders : Key → Option Owner) : Extends holders holders :=
  fun _ _ held => held

omit [DecidableEq Key] in
theorem Extends.trans (early : Extends first second) (late : Extends second third) :
    Extends first third :=
  fun key owner held => late key owner (early key owner held)

theorem extends_registerAll (holders : Key → Option Owner) (owner : Owner) (keys : List Key) :
    Extends holders (registerAll holders owner keys) := by
  intro key former held
  rw [registerAll_apply, held]
  split <;> rfl

/-- The owner holds a key of its list exactly where nobody else did before. -/
theorem registerAll_eq_some_iff (holders : Key → Option Owner) (owner : Owner)
    (listed : key ∈ keys) :
    registerAll holders owner keys key = some owner ↔
      ∀ former, holders key = some former → former = owner := by
  rw [registerAll_apply, if_pos listed]
  cases held : holders key with
  | none => simp
  | some former => simp [eq_comm]

theorem exists_registerAll_eq_some (holders : Key → Option Owner) (owner : Owner)
    (listed : key ∈ keys) :
    ∃ former, registerAll holders owner keys key = some former :=
  ⟨(holders key).getD owner, by rw [registerAll_apply, if_pos listed]⟩

end Foundation.FirstHolder
