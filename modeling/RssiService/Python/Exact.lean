import Mathlib.Algebra.Order.Field.Rat
import RssiService.Python.Float

/-!
# Exact numbers

The numbers that floats stand for: the rationals, the two infinities, and what
is not a number.  The operations are those of floats, without rounding.
-/

namespace RssiService.Python

inductive Exact where
  | finite (value : ℚ)
  | infinite (negative : Bool)
  | nan
  deriving DecidableEq, Repr

namespace Exact

open Float.Model

/-- The number that a float stands for. -/
def ofFloat (x : Float) : Exact :=
  match x.toModel.unpack with
  | .infinity sign => infinite (match sign with | .negative => true | .positive => false)
  | .notANumber => nan
  | .zero _ | .finite .. => finite (units x / 2 ^ 1074)

def add : Exact → Exact → Exact
  | finite x, finite y => finite (x + y)
  | finite _, infinite negative | infinite negative, finite _ => infinite negative
  | infinite negative, infinite other => if negative = other then infinite negative else nan
  | nan, _ | _, nan => nan

/-- An infinity times nothing is not a number. -/
def mul : Exact → Exact → Exact
  | finite x, finite y => finite (x * y)
  | finite x, infinite negative | infinite negative, finite x =>
      if x = 0 then nan else infinite (negative != decide (x < 0))
  | infinite negative, infinite other => infinite (negative != other)
  | nan, _ | _, nan => nan

/-- The quotient; the code divides by no finite zero. -/
def div : Exact → Exact → Exact
  | finite x, finite y => finite (x / y)
  | finite _, infinite _ => finite 0
  | infinite negative, finite y => infinite (negative != decide (y < 0))
  | infinite _, infinite _ => nan
  | nan, _ | _, nan => nan

/-- `x < y`; no comparison with `nan` holds. -/
def lt : Exact → Exact → Bool
  | finite x, finite y => x < y
  | finite _, infinite negative => !negative
  | infinite negative, finite _ => negative
  | infinite negative, infinite other => negative && !other
  | nan, _ | _, nan => false

/-- `x <= y`. -/
def le : Exact → Exact → Bool
  | finite x, finite y => x ≤ y
  | finite _, infinite negative => !negative
  | infinite negative, finite _ => negative
  | infinite negative, infinite other => negative || !other
  | nan, _ | _, nan => false

/-- The rational that a finite number is. -/
def value : Exact → ℚ
  | finite value => value
  | infinite _ | nan => 0

def IsFinite (x : Exact) : Prop := ∃ value, x = finite value

def IsPositive (x : Exact) : Prop := ∃ value, x = finite value ∧ 0 < value

theorem IsPositive.isFinite {x : Exact} (positive : x.IsPositive) : x.IsFinite :=
  positive.imp fun _ both => both.1

@[simp] theorem add_finite (x y : ℚ) : (finite x).add (finite y) = finite (x + y) := rfl

@[simp] theorem mul_finite (x y : ℚ) : (finite x).mul (finite y) = finite (x * y) := rfl

@[simp] theorem div_finite (x y : ℚ) : (finite x).div (finite y) = finite (x / y) := rfl

/-- A number times one. -/
theorem finite_one_mul (x : Exact) : (finite 1).mul x = x := by
  cases x with
  | finite value => rw [mul_finite, one_mul]
  | infinite negative => cases negative <;> decide
  | nan => rfl

theorem finite_zero_add (x : Exact) : (finite 0).add x = x := by
  cases x with
  | finite value => rw [add_finite, zero_add]
  | infinite negative => rfl
  | nan => rfl

example : ofFloat 0.5 = finite (1 / 2) := by decide +kernel

example : (ofFloat (1.0 / 0.0)).div (ofFloat (1.0 / 0.0)) = nan := by decide +kernel

end Exact

end RssiService.Python
