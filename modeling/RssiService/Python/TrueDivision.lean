import RssiService.Python.Float

/-!
# The quotient of two integers

`/` on integers gives the float nearest to the exact quotient, and the even one of two; where
that float would be out of range, it raises.  The quotients here are by a power of two and at
least one, so that only the 53 bits of a float bound them.
-/

namespace RssiService.Python

/-- The nearest natural with 53 significant bits. -/
def toSignificand (number : Nat) : Nat :=
  let unit := 2 ^ (number.log2 + 1 - 53)
  halfEven number unit * unit

/-- `number / 2 ** shift` as a number of `2 ** -shift`; `none` is the `OverflowError`. -/
def trueQuotient (number shift : Nat) : Option Nat :=
  let quotient := toSignificand number
  if quotient < 2 ^ (1024 + shift) then some quotient else none

/-- `f"{quotient / 2 ** shift:.1f}"`, with a comma. -/
def oneDecimal (quotient shift : Nat) : String :=
  let tenths := halfEven (10 * quotient) (2 ^ shift)
  toString (tenths / 10) ++ "," ++ toString (tenths % 10)

/-! ## The range -/

section Range

variable {number bits : Nat}

theorem halfEven_mul {divisor : Nat} (positive : 0 < divisor) (quotient : Nat) :
    halfEven (quotient * divisor) divisor = quotient := by
  rw [halfEven, Nat.mul_div_cancel _ positive, Nat.mul_mod_left]
  exact if_pos (Or.inl positive)

theorem toSignificand_le (below : number < 2 ^ bits) (size : number.log2 < bits) :
    toSignificand number ≤ 2 ^ bits := by
  let excess := number.log2 + 1 - 53
  have whole : 2 ^ (bits - excess) * 2 ^ excess = 2 ^ bits := by
    rw [← pow_add, Nat.sub_add_cancel (by omega)]
  have rounded : halfEven number (2 ^ excess) ≤ 2 ^ (bits - excess) := by
    refine (halfEven_mono below.le (2 ^ excess)).trans_eq ?_
    rw [← whole, halfEven_mul (Nat.two_pow_pos excess)]
  calc toSignificand number ≤ 2 ^ (bits - excess) * 2 ^ excess :=
        Nat.mul_le_mul_right _ rounded
    _ = 2 ^ bits := whole

theorem le_toSignificand (above : 2 ^ bits ≤ number) (size : bits = number.log2) :
    2 ^ bits ≤ toSignificand number := by
  let excess := number.log2 + 1 - 53
  have whole : 2 ^ (bits - excess) * 2 ^ excess = 2 ^ bits := by
    rw [← pow_add, Nat.sub_add_cancel (by omega)]
  have rounded : 2 ^ (bits - excess) ≤ halfEven number (2 ^ excess) := by
    have exact := halfEven_mul (Nat.two_pow_pos excess) (2 ^ (bits - excess))
    rw [whole] at exact
    exact exact.symm.trans_le (halfEven_mono above (2 ^ excess))
  calc 2 ^ bits = 2 ^ (bits - excess) * 2 ^ excess := whole.symm
    _ ≤ toSignificand number := Nat.mul_le_mul_right _ rounded

/-- A number reaches a power of two from the half of a last bit before it on. -/
theorem toSignificand_lt_iff (wide : 54 ≤ bits) :
    toSignificand number < 2 ^ bits ↔ number < 2 ^ bits - 2 ^ (bits - 54) := by
  have half : 2 ^ (bits - 54) * 2 ^ 54 = 2 ^ bits := by
    rw [← pow_add, Nat.sub_add_cancel wide]
  have positive := Nat.two_pow_pos (bits - 54)
  rcases Nat.eq_zero_or_pos number with rfl | filled
  · refine iff_of_true ?_ ?_
    · have zero : toSignificand 0 = 0 := by decide
      rw [zero]
      exact Nat.two_pow_pos bits
    · omega
  have low : 2 ^ number.log2 ≤ number := Nat.log2_self_le filled.ne'
  have high : number < 2 ^ (number.log2 + 1) := Nat.lt_log2_self
  rcases Nat.lt_trichotomy (number.log2 + 1) bits with shorter | same | longer
  · -- a shorter number is rounded to at most its own power of two
    have lower : 2 ^ (number.log2 + 1) ≤ 2 ^ (bits - 1) :=
      Nat.pow_le_pow_right (by decide) (by omega)
    have twice : 2 ^ bits = 2 * 2 ^ (bits - 1) := by
      rw [← pow_succ', Nat.sub_add_cancel (by omega)]
    have bound := toSignificand_le high (Nat.lt_succ_self _)
    have power := Nat.two_pow_pos (bits - 1)
    exact iff_of_true (by omega) (by omega)
  · have unit : number.log2 + 1 - 53 = bits - 54 + 1 := by omega
    have double : 2 ^ (bits - 54 + 1) = 2 * 2 ^ (bits - 54) := pow_succ' 2 _
    have whole : 2 ^ 53 * 2 ^ (bits - 54 + 1) = 2 ^ bits := by
      rw [double, ← half]
      ring
    have reached : 2 ^ 53 ≤ halfEven number (2 ^ (bits - 54 + 1)) ↔
        2 * 2 ^ 53 * 2 ^ (bits - 54 + 1) ≤ 2 * number + 2 ^ (bits - 54 + 1) :=
      even_le_halfEven_iff (Nat.two_pow_pos _) (by decide)
    rw [← not_iff_not, not_lt, not_lt, toSignificand, unit, ← whole,
      Nat.mul_le_mul_right_iff (Nat.two_pow_pos _), reached, double]
    generalize 2 ^ (bits - 54) = last
    omega
  · have above : 2 ^ bits ≤ 2 ^ number.log2 := Nat.pow_le_pow_right (by decide) (by omega)
    have bound := le_toSignificand low rfl
    exact iff_of_false (by omega) (by omega)

/-- The division raises from half of a last bit before the range on. -/
theorem trueQuotient_ne_none_iff (number shift : Nat) :
    trueQuotient number shift ≠ none ↔ number < 2 ^ (1024 + shift) - 2 ^ (970 + shift) := by
  have same : 1024 + shift - 54 = 970 + shift := by omega
  rw [trueQuotient, ← same, ← toSignificand_lt_iff (by omega)]
  split
  · rename_i inside
    exact iff_of_true (by rintro ⟨⟩) inside
  · rename_i outside
    exact iff_of_false (fun ne => ne rfl) outside

theorem trueQuotient_ne_none {shift : Nat} (small : number < 2 ^ (970 + shift)) :
    trueQuotient number shift ≠ none := by
  have double : 2 ^ (970 + shift + 1) ≤ 2 ^ (1024 + shift) :=
    Nat.pow_le_pow_right (by decide) (by omega)
  rw [pow_succ] at double
  refine (trueQuotient_ne_none_iff number shift).mpr ?_
  omega

end Range

end RssiService.Python
