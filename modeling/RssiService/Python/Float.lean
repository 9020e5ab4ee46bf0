import Mathlib.Algebra.BigOperators.Group.List.Basic
import Mathlib.Algebra.Ring.Int.Defs
import Mathlib.Data.Rat.Floor
import Mathlib.Tactic.Linarith

/-!
# Floats

The floats of Python are the binary64 numbers.  `sum` compensates its rounding
errors: the numbers are added exactly, and the total is rounded once.  `round`
takes the nearest number, and the even one of two.
-/

namespace RssiService.Python

open Float.Model

/-- How many times the least positive float, `2 ^ -1074`, goes into a float. -/
def units (x : Float) : Int :=
  match x.toModel.unpack with
  | .finite sign mantissa exponent _ => sign.apply (mantissa * 2 ^ (exponent + 1074).toNat)
  | _ => 0

/-- The float nearest to a number of units. -/
def nearest (total : Int) : Float :=
  .ofModel (pack (UnpackedFloat.normalize Format.binary64 total (-1074) .positive))

def nan : Float := .ofModel (pack .notANumber)

def infinity (sign : UnpackedFloat.Sign) : Float := .ofModel (pack (.infinity sign))

/-- Floats are compared bit for bit. -/
def holds (xs : List Float) (x : Float) : Bool := xs.any fun other => decide (other = x)

/-- The sum of a list of floats. -/
def sum (xs : List Float) : Float :=
  if holds xs nan || holds xs (infinity .positive) && holds xs (infinity .negative) then nan
  else if holds xs (infinity .positive) then infinity .positive
  else if holds xs (infinity .negative) then infinity .negative
  else nearest (xs.map units).sum

/-- The quotient of two naturals, to the nearest one and to the even one of two. -/
def halfEven (dividend divisor : Nat) : Nat :=
  let quotient := dividend / divisor
  let double := 2 * (dividend % divisor)
  if double < divisor ∨ double = divisor ∧ quotient % 2 = 0 then quotient else quotient + 1

/-- `round(x, 1)`: the exact value is rounded in decimal, then to a float. -/
def roundTenths (x : Float) : Float :=
  match x.toModel.unpack with
  | .finite sign mantissa exponent _ =>
      let tenths := halfEven (10 * mantissa * 2 ^ (exponent + 1074).toNat) (2 ^ 1074)
      let rounded := Float.ofScientific tenths true 1
      match sign with
      | .positive => rounded
      | .negative => -rounded
  | _ => x

/-- `round(x)` on exact numbers: the nearest integer, and the even one of two. -/
def roundHalfEven (x : ℚ) : ℤ :=
  if x - ⌊x⌋ < 1 / 2 ∨ x - ⌊x⌋ = 1 / 2 ∧ ⌊x⌋ % 2 = 0 then ⌊x⌋ else ⌊x⌋ + 1

theorem halfEven_cases (dividend divisor : Nat) :
    halfEven dividend divisor = dividend / divisor ∨
      halfEven dividend divisor = dividend / divisor + 1 := by
  rw [halfEven]
  split
  · exact Or.inl rfl
  · exact Or.inr rfl

theorem halfEven_mono {first second : Nat} (le : first ≤ second) (divisor : Nat) :
    halfEven first divisor ≤ halfEven second divisor := by
  have quotients : first / divisor ≤ second / divisor := Nat.div_le_div_right le
  rcases quotients.lt_or_eq with less | same
  · have upper := halfEven_cases first divisor
    have lower := halfEven_cases second divisor
    omega
  · -- of two numbers with one quotient the greater one is rounded up with the other
    have remainders : first % divisor ≤ second % divisor := by
      have split := Nat.div_add_mod first divisor
      have split' := Nat.div_add_mod second divisor
      rw [same] at split
      omega
    rw [halfEven, halfEven, same]
    split
    · split
      · exact Nat.le_refl _
      · exact Nat.le_succ _
    · split
      · omega
      · exact Nat.le_refl _

/-- An even number is reached from the half before it on. -/
theorem even_le_halfEven_iff {dividend divisor bound : Nat} (positive : 0 < divisor)
    (even : bound % 2 = 0) :
    bound ≤ halfEven dividend divisor ↔ 2 * bound * divisor ≤ 2 * dividend + divisor := by
  have whole := Nat.div_add_mod dividend divisor
  have rest := Nat.mod_lt dividend positive
  have cases := halfEven_cases dividend divisor
  rcases Nat.lt_trichotomy bound (dividend / divisor + 1) with below | rfl | above
  · have product : bound * divisor ≤ divisor * (dividend / divisor) := by
      rw [Nat.mul_comm]
      exact Nat.mul_le_mul_left divisor (Nat.le_of_lt_succ below)
    exact iff_of_true (by omega) (by rw [Nat.mul_assoc]; omega)
  · -- the number before it is odd, so its half is rounded up
    have product : 2 * (dividend / divisor + 1) * divisor =
        2 * (divisor * (dividend / divisor)) + 2 * divisor := by ring
    rw [product, halfEven]
    split
    · omega
    · omega
  · have product : divisor * (dividend / divisor) + 2 * divisor ≤ bound * divisor := by
      calc
        divisor * (dividend / divisor) + 2 * divisor = (dividend / divisor + 2) * divisor := by ring
        _ ≤ bound * divisor := Nat.mul_le_mul_right divisor above
    exact iff_of_false (by omega) (by rw [Nat.mul_assoc]; omega)

theorem roundHalfEven_mono {x y : ℚ} (le : x ≤ y) : roundHalfEven x ≤ roundHalfEven y := by
  have floors : ⌊x⌋ ≤ ⌊y⌋ := Int.floor_mono le
  rcases floors.lt_or_eq with less | same
  · have upper : roundHalfEven x ≤ ⌊x⌋ + 1 := by
      rw [roundHalfEven]
      split <;> omega
    have lower : ⌊y⌋ ≤ roundHalfEven y := by
      rw [roundHalfEven]
      split <;> omega
    omega
  · -- on one unit the greater number is rounded up with the other
    rw [roundHalfEven, roundHalfEven, same]
    split_ifs with first second second
    · exact le_refl _
    · omega
    · refine absurd ?_ first
      rcases second with less | ⟨half, even⟩
      · exact Or.inl (by linarith)
      · rcases le.lt_or_eq with less | rfl
        · exact Or.inl (by linarith)
        · exact Or.inr ⟨half, even⟩
    · exact le_refl _

@[simp] theorem roundHalfEven_zero : roundHalfEven 0 = 0 := by
  simp [roundHalfEven]

/-- The order of the numbers does not matter. -/
theorem sum_perm {xs ys : List Float} (same : xs.Perm ys) : sum xs = sum ys := by
  have total : (xs.map units).sum = (ys.map units).sum := (same.map units).sum_eq
  have found (x : Float) : holds xs x = holds ys x := same.any_eq
  rw [sum, sum, found nan, found (infinity .positive), found (infinity .negative), total]

example : roundTenths (sum [33.3, 0.1, 0.2] / 3) = 11.2 := by decide +kernel

end RssiService.Python
