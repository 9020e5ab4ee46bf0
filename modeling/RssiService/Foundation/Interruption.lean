import Mathlib.Data.List.Basic

/-!
# Interrupted plans

A plan is a list of writes, each of which is kept as soon as it is made.  A plan that is
interrupted has made its first writes and none of the others.
-/

namespace Foundation.Interruption

variable {State Write : Type*}

/-- The writes that are made: all of them, or the first ones. -/
def made (plan : List Write) : Option Nat → List Write
  | none => plan
  | some count => plan.take count

/-- The state that a plan leaves. -/
def carry (apply : State → Write → State) (plan : List Write) (cut : Option Nat) (state : State) :
    State :=
  (made plan cut).foldl apply state

/-- Nothing is left to do. -/
def completes (plan : List Write) (cut : Option Nat) : Bool :=
  cut.all fun count => plan.length ≤ count

variable {apply : State → Write → State} {plan : List Write} {cut : Option Nat} {state : State}

theorem made_of_completes (ends : completes plan cut = true) : made plan cut = plan := by
  cases cut with
  | none => rfl
  | some count => exact List.take_of_length_le (of_decide_eq_true ends)

theorem carry_of_completes (ends : completes plan cut = true) :
    carry apply plan cut state = plan.foldl apply state := by
  rw [carry, made_of_completes ends]

@[simp]
theorem completes_nil : completes ([] : List Write) cut = true := by
  cases cut with
  | none => rfl
  | some count => exact decide_eq_true (Nat.zero_le count)

@[simp]
theorem carry_nil : carry apply [] cut state = state := carry_of_completes completes_nil

theorem mem_of_made {change : Write} (done : change ∈ made plan cut) : change ∈ plan := by
  cases cut with
  | none => exact done
  | some count => exact List.mem_of_mem_take done

/-- An interrupted plan has not made its last write. -/
theorem mem_of_made_append {last change : Write} (broken : completes (plan ++ [last]) cut = false)
    (done : change ∈ made (plan ++ [last]) cut) : change ∈ plan := by
  cases cut with
  | none => cases broken
  | some count =>
      have short : count ≤ plan.length := by
        have longer := of_decide_eq_false broken
        rw [List.length_append, List.length_singleton] at longer
        omega
      rw [made, List.take_append_of_le_length short] at done
      exact List.mem_of_mem_take done

/-- What every write of a plan keeps, the plan keeps wherever it is interrupted. -/
theorem carry_invariant {P : State → Prop}
    (keeps : ∀ state change, change ∈ made plan cut → P state → P (apply state change))
    (holds : P state) : P (carry apply plan cut state) := by
  rw [carry]
  generalize made plan cut = writes at keeps
  induction writes generalizing state with
  | nil => exact holds
  | cons change rest ih =>
      exact ih (keeps state change List.mem_cons_self holds) fun state other later =>
        keeps state other (List.mem_cons_of_mem _ later)

end Foundation.Interruption
