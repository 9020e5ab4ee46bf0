import Mathlib.Data.List.Basic
import Mathlib.Order.Lattice
import Mathlib.Order.MinMax

/-!
# Clocks that are changed

A local clock shows the universal time moved by an offset, which changes at some
instants: the clock then skips some times, or shows them once more.  A time of the
clock stands for the first instant at which it is shown, and a time that is skipped
for the instant at which it would have been.
-/

namespace Foundation.LocalClock

/-- From an instant on the clock has another offset. -/
structure Change where
  moment : Int
  offset : Int
  deriving DecidableEq, Repr

/-- What the clock shows at an instant. -/
def shown (offset : Int) : List Change → Int → Int
  | [], moment => moment + offset
  | change :: rest, moment =>
      if moment < change.moment then moment + offset else shown change.offset rest moment

/-- The instant of a time of the clock. -/
def instant (offset : Int) : List Change → Int → Int
  | [], time => time - offset
  | change :: rest, time =>
      if time < change.moment + max offset change.offset then time - offset
      else instant change.offset rest time

/-- What each change makes of the time: what would be shown, and what is. -/
def jumps (offset : Int) : List Change → List (Int × Int)
  | [] => []
  | change :: rest =>
      (change.moment + offset, change.moment + change.offset) :: jumps change.offset rest

/-- The times that a change skips or shows again come after those of the changes
before it. -/
def Separated (floor offset : Int) : List Change → Prop
  | [] => True
  | change :: rest =>
      floor ≤ change.moment + min offset change.offset ∧
        Separated (change.moment + max offset change.offset) change.offset rest

/-- From an instant on, and no sooner, the clock shows a time or a later one. -/
def Reaches (offset : Int) (changes : List Change) (first time : Int) : Prop :=
  ∀ moment, first ≤ moment ↔ time ≤ shown offset changes moment

section Clock

variable {floor offset moment time : Int} {changes : List Change}

/-- Before the times of its changes the clock has its first offset. -/
theorem shown_of_lt (separated : Separated floor offset changes)
    (before : moment + offset < floor) : shown offset changes moment = moment + offset := by
  cases changes with
  | nil => rfl
  | cons change rest =>
      have least := separated.1
      exact if_pos (by omega)

/-- The clock does not go below what it showed when there was no change yet. -/
theorem le_shown {low : Int} (separated : Separated floor offset changes) (under : low ≤ floor)
    (here : low ≤ moment + offset) : low ≤ shown offset changes moment := by
  induction changes generalizing floor offset with
  | nil => exact here
  | cons change rest ih =>
      obtain ⟨least, later⟩ := separated
      rw [shown]
      split
      · exact here
      · exact ih later (by omega) (by omega)

/-- A time is not before an instant that the clock had shown by then. -/
theorem le_instant (separated : Separated floor offset changes) (under : moment + offset ≤ floor)
    (reached : moment + offset ≤ time) : moment ≤ instant offset changes time := by
  induction changes generalizing floor offset moment with
  | nil => exact Int.le_sub_right_of_add_le reached
  | cons change rest ih =>
      obtain ⟨least, later⟩ := separated
      rw [instant]
      split
      · exact Int.le_sub_right_of_add_le reached
      · have passed : change.moment ≤ instant change.offset rest time :=
          ih later (by omega) (by omega)
        omega

theorem floor_le_of_mem_jumps (separated : Separated floor offset changes) {jump : Int × Int}
    (listed : jump ∈ jumps offset changes) : floor ≤ min jump.1 jump.2 := by
  induction changes generalizing floor offset with
  | nil => cases listed
  | cons change rest ih =>
      obtain ⟨least, later⟩ := separated
      rcases List.mem_cons.mp listed with rfl | listed
      · dsimp only
        omega
      · have above := ih later listed
        omega

/-- A time that comes after a change is reached when it is reached after that change. -/
theorem reaches_cons_iff {change : Change} {rest : List Change} {first : Int}
    (separated : Separated floor offset (change :: rest)) (changed : change.moment ≤ first)
    (passed : change.moment + max offset change.offset ≤ time) :
    Reaches offset (change :: rest) first time ↔ Reaches change.offset rest first time := by
  refine forall_congr' fun moment => ?_
  rw [shown]
  split
  · rename_i before
    have later : shown change.offset rest moment = moment + change.offset :=
      shown_of_lt separated.2 (by omega)
    rw [later]
    omega
  · rfl

/-- A time that the first offset shows is reached when no change has shown it before. -/
theorem reaches_sub_iff {change : Change} {rest : List Change}
    (separated : Separated floor offset (change :: rest))
    (near : time ≤ change.moment + max offset change.offset) :
    Reaches offset (change :: rest) (time - offset) time ↔
      time ≤ change.moment + min offset change.offset := by
  constructor
  · intro reaches
    by_contra passed
    have here := reaches change.moment
    rw [shown, if_neg (Int.lt_irrefl _)] at here
    rcases Int.lt_or_le offset change.offset with forward | backward
    · -- the time is skipped
      have shows : change.moment + change.offset ≤ shown change.offset rest change.moment :=
        le_shown separated.2 (by omega) (Int.le_refl _)
      omega
    · -- the time is shown again
      have shows : shown change.offset rest change.moment = change.moment + change.offset :=
        shown_of_lt separated.2 (by omega)
      omega
  · intro under moment
    rw [shown]
    split
    · omega
    · rename_i after
      have shows : time ≤ shown change.offset rest moment :=
        le_shown separated.2 near (by omega)
      exact iff_of_true (by omega) shows

/-- A change goes over a time. -/
def PassesOver (jumps : List (Int × Int)) (time : Int) : Prop :=
  ∃ jump ∈ jumps, min jump.1 jump.2 < time ∧ time < max jump.1 jump.2

/-- A change goes over a time, or up to it. -/
def PassesUpTo (jumps : List (Int × Int)) (time : Int) : Prop :=
  ∃ jump ∈ jumps, min jump.1 jump.2 < time ∧ time ≤ max jump.1 jump.2

/-- The instant of a time is where the clock reaches it, unless a change goes over the
time. -/
theorem reaches_instant_iff (separated : Separated floor offset changes) :
    Reaches offset changes (instant offset changes time) time ↔
      ¬ PassesOver (jumps offset changes) time := by
  rw [PassesOver]
  induction changes generalizing floor offset with
  | nil =>
      refine iff_of_true (fun moment => ?_) ?_
      · rw [instant, shown]
        omega
      · rintro ⟨jump, absent, _⟩
        cases absent
  | cons change rest ih =>
      rw [jumps, List.exists_mem_cons_iff, not_or, ← ih separated.2, instant]
      split
      · rename_i near
        rw [reaches_sub_iff separated (Int.le_of_lt near)]
        have clear : ¬ PassesOver (jumps change.offset rest) time := by
          rintro ⟨jump, listed, below, _⟩
          have above := floor_le_of_mem_jumps separated.2 listed
          omega
        rw [and_iff_left ((ih separated.2).mpr clear)]
        dsimp only
        omega
      · rename_i far
        have changed : change.moment ≤ instant change.offset rest time :=
          le_instant separated.2 (by omega) (by omega)
        rw [reaches_cons_iff separated changed (Int.not_lt.mp far), and_iff_right]
        dsimp only
        omega

/-- The time after the one of an instant is reached next, unless a change goes over the
time or up to it. -/
theorem reaches_next_iff (separated : Separated floor offset changes) :
    Reaches offset changes (instant offset changes (time - 1) + 1) time ↔
      ¬ PassesUpTo (jumps offset changes) time := by
  rw [PassesUpTo]
  induction changes generalizing floor offset with
  | nil =>
      refine iff_of_true (fun moment => ?_) ?_
      · rw [instant, shown]
        omega
      · rintro ⟨jump, absent, _⟩
        cases absent
  | cons change rest ih =>
      rw [jumps, List.exists_mem_cons_iff, not_or, ← ih separated.2, instant]
      split
      · rename_i near
        have first : time - 1 - offset + 1 = time - offset := by omega
        rw [first, reaches_sub_iff separated (Int.le_of_sub_one_lt near)]
        have clear : ¬ PassesUpTo (jumps change.offset rest) time := by
          rintro ⟨jump, listed, below, _⟩
          have above := floor_le_of_mem_jumps separated.2 listed
          omega
        rw [and_iff_left ((ih separated.2).mpr clear)]
        dsimp only
        omega
      · rename_i far
        have changed : change.moment ≤ instant change.offset rest (time - 1) :=
          le_instant separated.2 (by omega) (by omega)
        rw [reaches_cons_iff separated (by omega) (by omega), and_iff_right]
        dsimp only
        omega

end Clock

/-- The clock of a zone. -/
structure Zone where
  offset : Int
  changes : List Change
  separated : ∃ floor, Separated floor offset changes

namespace Zone

variable (zone : Zone)

def shown (moment : Int) : Int := LocalClock.shown zone.offset zone.changes moment

def instant (time : Int) : Int := LocalClock.instant zone.offset zone.changes time

def jumps : List (Int × Int) := LocalClock.jumps zone.offset zone.changes

variable {zone} {time : Int}

theorem reaches_instant_iff :
    (∀ moment, zone.instant time ≤ moment ↔ time ≤ zone.shown moment) ↔
      ¬ PassesOver zone.jumps time := by
  obtain ⟨floor, separated⟩ := zone.separated
  exact LocalClock.reaches_instant_iff separated

theorem reaches_next_iff :
    (∀ moment, zone.instant (time - 1) + 1 ≤ moment ↔ time ≤ zone.shown moment) ↔
      ¬ PassesUpTo zone.jumps time := by
  obtain ⟨floor, separated⟩ := zone.separated
  exact LocalClock.reaches_next_iff separated

end Zone

theorem not_passesOver {jumps : List (Int × Int)} {time : Int} (clear : ¬ PassesUpTo jumps time) :
    ¬ PassesOver jumps time := by
  rintro ⟨jump, listed, below, above⟩
  exact clear ⟨jump, listed, below, Int.le_of_lt above⟩

end Foundation.LocalClock
