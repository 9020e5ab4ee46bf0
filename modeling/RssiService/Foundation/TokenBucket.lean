import Mathlib.Algebra.Order.Field.Basic
import Mathlib.Tactic.Linarith
import Mathlib.Tactic.Ring

/-!
# Token buckets

A bucket of a given capacity refills at a given rate, and what it serves is a
list of instants, the newest first.  The level that the bucket has at an instant
is what the tightest window ending there leaves, so that the bucket is never
overdrawn exactly where every window of time holds no more than the capacity
and what the rate gives over its length.
-/

namespace Foundation.TokenBucket

/-! ## Instants, the newest first -/

section Order

variable {Time : Type*} [LinearOrder Time] {now later last first final : Time}
  {past earlier : List Time}

/-- The newest first, and none after `now`. -/
def Past (now : Time) (instants : List Time) : Prop :=
  (now :: instants).Pairwise (· ≥ ·)

/-- How many instants lie between two others. -/
def countBetween (instants : List Time) (first last : Time) : Nat :=
  instants.countP fun instant => first ≤ instant ∧ instant ≤ last

/-- How many instants come no earlier than `first`. -/
def since (instants : List Time) (first : Time) : Nat :=
  instants.countP fun instant => first ≤ instant

theorem past_nil : Past now [] := List.pairwise_singleton _ _

theorem Past.le (ordered : Past now past) {instant : Time} (member : instant ∈ past) :
    instant ≤ now :=
  List.rel_of_pairwise_cons ordered member

theorem Past.uncons (ordered : Past now (last :: earlier)) : last ≤ now ∧ Past last earlier :=
  ⟨ordered.le List.mem_cons_self, List.Pairwise.of_cons ordered⟩

theorem Past.mono (ordered : Past now past) (after : now ≤ later) : Past later past := by
  refine List.pairwise_cons.mpr ⟨?_, List.Pairwise.of_cons ordered⟩
  intro instant member
  exact (ordered.le member).trans after

theorem Past.cons (ordered : Past now past) : Past now (now :: past) := by
  refine List.pairwise_cons.mpr ⟨?_, ordered⟩
  intro instant member
  rcases List.mem_cons.mp member with same | old
  · exact same.le
  · exact ordered.le old

theorem since_cons_of_le (le : first ≤ last) :
    since (last :: earlier) first = since earlier first + 1 :=
  List.countP_cons_of_pos (by simpa using le)

theorem since_eq_zero (ordered : Past now past) (lt : now < first) : since past first = 0 := by
  refine List.countP_eq_zero.mpr ?_
  intro instant member
  have before := (ordered.le member).trans_lt lt
  simpa using before

theorem countBetween_cons_of_lt (lt : final < now) :
    countBetween (now :: past) first final = countBetween past first final := by
  refine List.countP_cons_of_neg ?_
  simpa using fun _ => lt

theorem countBetween_le_cons :
    countBetween past first final ≤ countBetween (now :: past) first final :=
  (List.sublist_cons_self now past).countP_le

theorem countBetween_eq_since (ordered : Past now past) (le : now ≤ final) :
    countBetween past first final = since past first := by
  refine List.countP_congr ?_
  intro instant member
  have within := (ordered.le member).trans le
  simp [within]

end Order

/-! ## The level of the bucket -/

section Level

variable {Time : Type*} [Field Time] [LinearOrder Time] (capacity rate : Time)

/-- The level at `now` of a bucket that was full before it served `past`. -/
def level : List Time → Time → Time
  | [], _ => capacity
  | last :: earlier, now => min capacity (level earlier last - 1 + (now - last) * rate)

/-- No window of time holds more than the capacity and what its length gives. -/
def Bounded (instants : List Time) : Prop :=
  ∀ first last, first ≤ last →
    (countBetween instants first last : Time) ≤ capacity + (last - first) * rate

variable {capacity rate} {now later last first final : Time} {past earlier : List Time}

theorem level_le_capacity : level capacity rate past now ≤ capacity := by
  cases past with
  | nil => exact le_rfl
  | cons last earlier => exact min_le_left capacity _

variable [IsStrictOrderedRing Time]

/-- Between two uses the level grows at the rate, up to the capacity. -/
theorem min_le_level (now : Time) :
    min capacity (level capacity rate past now + (later - now) * rate) ≤
      level capacity rate past later := by
  cases past with
  | nil => exact min_le_left capacity _
  | cons last earlier =>
      refine le_min (min_le_left capacity _) ((min_le_right capacity _).trans ?_)
      have grown : level capacity rate (last :: earlier) now ≤
          level capacity rate earlier last - 1 + (now - last) * rate := min_le_right capacity _
      linarith

/-- The level reaches an amount exactly where every window that ends now leaves it. -/
theorem le_level_iff {amount : Time} (nonneg : 0 ≤ rate) (ordered : Past now past) :
    amount ≤ level capacity rate past now ↔
      ∀ first ≤ now, amount + since past first ≤ capacity + (now - first) * rate := by
  induction past generalizing now amount with
  | nil =>
      constructor
      · intro below first le
        have gained := mul_nonneg (sub_nonneg.mpr le) nonneg
        simp only [level] at below
        simp only [since, List.countP_nil, Nat.cast_zero]
        linarith
      · intro windows
        have here := windows now le_rfl
        simpa [since, level] using here
  | cons last earlier ih =>
      obtain ⟨before, rest⟩ := ordered.uncons
      have shift : amount ≤ level capacity rate earlier last - 1 + (now - last) * rate ↔
          amount + 1 - (now - last) * rate ≤ level capacity rate earlier last := by
        constructor <;> intro <;> linarith
      rw [level, le_min_iff, shift, ih rest]
      constructor
      · rintro ⟨below, windows⟩ first le
        rcases le_or_gt first last with inside | outside
        · have window := windows first inside
          rw [since_cons_of_le inside]
          push_cast
          linarith
        · have gained := mul_nonneg (sub_nonneg.mpr le) nonneg
          rw [since_eq_zero rest.cons outside, Nat.cast_zero]
          linarith
      · intro windows
        constructor
        · have here := windows now le_rfl
          have counted : (0 : Time) ≤ since (last :: earlier) now := Nat.cast_nonneg _
          linarith
        · intro first inside
          have window := windows first (inside.trans before)
          rw [since_cons_of_le inside] at window
          push_cast at window
          linarith

/-- One more use keeps every window within bounds exactly where it finds a whole
token. -/
theorem bounded_cons_iff (capacity : Time) (nonneg : 0 ≤ rate) (ordered : Past now past) :
    Bounded capacity rate (now :: past) ↔
      Bounded capacity rate past ∧ 1 ≤ level capacity rate past now := by
  rw [le_level_iff nonneg ordered]
  constructor
  · intro bounded
    constructor
    · intro first final le
      have count := bounded first final le
      exact (Nat.cast_le.mpr countBetween_le_cons).trans count
    · intro first le
      have count := bounded first now le
      rw [countBetween_eq_since ordered.cons le_rfl, since_cons_of_le le] at count
      push_cast at count
      linarith
  · rintro ⟨bounded, windows⟩ first final le
    rcases lt_or_ge final now with before | after
    · rw [countBetween_cons_of_lt before]
      exact bounded first final le
    · rw [countBetween_eq_since ordered.cons after]
      rcases le_or_gt first now with inside | outside
      · have window := windows first inside
        have longer := mul_le_mul_of_nonneg_right (sub_le_sub_right after first) nonneg
        rw [since_cons_of_le inside]
        push_cast
        linarith
      · have count := bounded first final le
        rw [since_eq_zero ordered.cons outside, Nat.cast_zero]
        exact (Nat.cast_nonneg _).trans count

end Level

end Foundation.TokenBucket
