import Mathlib.Logic.Function.Basic

/-!
# A cache whose entries expire

Each entry is set with the instant at which it expires, and is absent from then
on.  Incrementing a counter keeps its expiry.
-/

namespace Foundation

structure CacheEntry (Value : Type*) where
  value : Value
  expiresAt : Nat

/-- The entries of a cache, expired ones included. -/
def Cache (Key Value : Type*) := Key → Option (CacheEntry Value)

namespace Cache

variable {Key Value : Type*} [DecidableEq Key]

def empty : Cache Key Value := fun _ => none

/-- The entry of a key that has not expired. -/
def live (cache : Cache Key Value) (now : Nat) (key : Key) : Option (CacheEntry Value) :=
  (cache key).filter fun entry => now < entry.expiresAt

def get (cache : Cache Key Value) (now : Nat) (key : Key) : Option Value :=
  (cache.live now key).map CacheEntry.value

def set (cache : Cache Key Value) (now : Nat) (key : Key) (value : Value) (timeout : Nat) :
    Cache Key Value :=
  Function.update cache key (some ⟨value, now + timeout⟩)

def delete (cache : Cache Key Value) (key : Key) : Cache Key Value :=
  Function.update cache key none

/-- The cache and the counter after an increment; `none` when the key is absent. -/
def incr (cache : Cache Key Nat) (now : Nat) (key : Key) : Option (Cache Key Nat × Nat) :=
  (cache.live now key).map fun entry =>
    (Function.update cache key (some { entry with value := entry.value + 1 }), entry.value + 1)

@[simp]
theorem update_apply (cache : Cache Key Value) (key other : Key)
    (entry : Option (CacheEntry Value)) :
    Function.update cache key entry other = if other = key then entry else cache other :=
  Function.update_apply cache key entry other

@[simp]
theorem set_apply (cache : Cache Key Value) (now : Nat) (key other : Key) (value : Value)
    (timeout : Nat) :
    cache.set now key value timeout other =
      if other = key then some ⟨value, now + timeout⟩ else cache other :=
  update_apply cache key other _

@[simp]
theorem delete_apply (cache : Cache Key Value) (key other : Key) :
    cache.delete key other = if other = key then none else cache other :=
  update_apply cache key other none

end Cache

/-! ## Several keys -/

/-- An update that concerns one key, made for each key of a list. -/
theorem view_foldl_keys {State Key View : Type*} [DecidableEq Key] {update : State → Key → State}
    (view : State → Key → View) (change : View → View)
    (view_update : ∀ state key other,
      view (update state key) other = if other = key then change (view state key) else
        view state other)
    {keys : List Key} (distinct : keys.Nodup) (state : State) (other : Key) :
    view (keys.foldl update state) other =
      if other ∈ keys then change (view state other) else view state other := by
  induction keys generalizing state with
  | nil => rfl
  | cons key rest ih =>
      obtain ⟨apart, distinct⟩ := List.nodup_cons.mp distinct
      rw [List.foldl_cons, ih distinct, view_update]
      by_cases mine : other = key
      · subst mine
        rw [if_neg apart, if_pos rfl, if_pos List.mem_cons_self]
      · simp only [List.mem_cons, mine, false_or, if_false]

end Foundation
