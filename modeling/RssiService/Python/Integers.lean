import Mathlib.Algebra.GroupWithZero.Nat
import RssiService.Python.Json

/-!
# Integers in text

`int` reads a text with blanks around it, a sign, and decimal digits of any
script, between which single underscores may stand.  It cuts a float to its
whole part.
-/

namespace RssiService.Python

/-- The zeros of the scripts with decimal digits. -/
def decimalZeros : List Nat :=
  [0x30, 0x660, 0x6F0, 0x7C0, 0x966, 0x9E6, 0xA66, 0xAE6, 0xB66, 0xBE6, 0xC66, 0xCE6, 0xD66, 0xDE6,
    0xE50, 0xED0, 0xF20, 0x1040, 0x1090, 0x17E0, 0x1810, 0x1946, 0x19D0, 0x1A80, 0x1A90, 0x1B50,
    0x1BB0, 0x1C40, 0x1C50, 0xA620, 0xA8D0, 0xA900, 0xA9D0, 0xA9F0, 0xAA50, 0xABF0, 0xFF10, 0x104A0,
    0x10D30, 0x11066, 0x110F0, 0x11136, 0x111D0, 0x112F0, 0x11450, 0x114D0, 0x11650, 0x116C0,
    0x11730, 0x118E0, 0x11950, 0x11C50, 0x11D50, 0x11DA0, 0x11F50, 0x16A60, 0x16AC0, 0x16B50,
    0x1D7CE, 0x1D7D8, 0x1D7E2, 0x1D7EC, 0x1D7F6, 0x1E140, 0x1E2F0, 0x1E4F0, 0x1E950, 0x1FBF0]

/-- The value of a decimal digit. -/
def decimalValue (symbol : Char) : Option Nat :=
  (decimalZeros.find? fun base => base ≤ symbol.toNat && symbol.toNat ≤ base + 9).map
    (symbol.toNat - ·)

/-- The blanks that `int` skips: those of `str.strip` but the separators of ASCII. -/
def isIntSpace (symbol : Char) : Bool :=
  isSpace symbol && !(28 ≤ symbol.toNat && symbol.toNat ≤ 31)

/-- The digits of a text, in groups that underscores part. -/
def digits (text : List Char) : Option (List Nat) :=
  let groups := splitChar '_' text
  if groups.any List.isEmpty then none else groups.flatten.mapM decimalValue

def ofDigits (digits : List Nat) : Nat :=
  digits.foldl (fun value digit => 10 * value + digit) 0

/-- An integer as it is written: whether it is negative, and its digits. -/
structure Numeral where
  negative : Bool
  digits : List Nat
  deriving DecidableEq, Repr

def numeral (text : String) : Option Numeral :=
  let signed := rstripChars isIntSpace (lstripChars isIntSpace text.toList)
  match signed with
  | '-' :: rest => (digits rest).map (⟨true, ·⟩)
  | '+' :: rest => (digits rest).map (⟨false, ·⟩)
  | _ => (digits signed).map (⟨false, ·⟩)

def Numeral.value (written : Numeral) : Int :=
  let magnitude := ofDigits written.digits
  if written.negative then -magnitude else magnitude

/-- `sys.get_int_max_str_digits()`. -/
def maxStrDigits : Nat := 4300

/-- `int(text)`; `ValueError` is `none`. -/
def intOf (text : String) : Option Int :=
  (numeral text).bind fun written =>
    if written.digits.length ≤ maxStrDigits then some written.value else none

/-- `int(value)` of a float, by the text it prints as: what follows the point goes. -/
def intOfFloat (text : String) : Option Int :=
  let negative := text.toList.head? = some '-'
  let (mantissa, _, power) := partition 'e' (text.toList.drop (if negative then 1 else 0))
  let (whole, _, fraction) := partition '.' mantissa
  (digits (whole ++ fraction)).bind fun figures =>
    (if power = [] then some 0 else intOf (String.ofList power)).map fun power =>
      let shift : Int := power - fraction.length
      let magnitude : Nat :=
        if 0 ≤ shift then ofDigits figures * 10 ^ shift.toNat
        else ofDigits figures / 10 ^ (-shift).toNat
      if negative then -(magnitude : Int) else magnitude

/-- `int(value)`; `ValueError` and `TypeError` are `none`. -/
def Json.toInt? : Json → Option Int
  | .bool value => some (if value then 1 else 0)
  | .int value => some value
  | .float text => intOfFloat text
  | .str text => intOf text
  | .null | .arr _ | .obj _ => none

/-! ## Decimal texts -/

section Decimal

variable {text : List Char}

theorem decimalValue_of_isDigit {symbol : Char} (digit : symbol.isDigit = true) :
    decimalValue symbol = some (symbol.toNat - '0'.toNat) := by
  simp only [Char.isDigit, Bool.and_eq_true, decide_eq_true_eq, ge_iff_le] at digit
  have low : 48 ≤ symbol.toNat := digit.1
  have high : symbol.toNat ≤ 57 := digit.2
  have first : decimalZeros.find? (fun base => base ≤ symbol.toNat && symbol.toNat ≤ base + 9) =
      some 48 := by
    change (48 :: decimalZeros.tail).find? _ = _
    exact List.find?_cons_of_pos (by simp [low, high])
  rw [decimalValue, first]
  rfl

theorem not_isIntSpace_of_isDigit {symbol : Char} (digit : symbol.isDigit = true) :
    isIntSpace symbol = false := by
  simp only [Char.isDigit, Bool.and_eq_true, decide_eq_true_eq, ge_iff_le] at digit
  have low : 48 ≤ symbol.toNat := digit.1
  have high : symbol.toNat ≤ 57 := digit.2
  have dark : isSpace symbol = false := by
    simp only [isSpace, Bool.or_eq_false_iff, Bool.and_eq_false_iff, decide_eq_false_iff_not]
    omega
  rw [isIntSpace, dark, Bool.false_and]

theorem splitChar_of_not_mem {separator : Char} (absent : separator ∉ text) :
    splitChar separator text = [text] := by
  induction text with
  | nil => rfl
  | cons symbol rest ih =>
      rw [List.mem_cons, not_or] at absent
      rw [splitChar, ih absent.2]
      exact if_neg fun same => absent.1 same.symm

theorem digits_of_isDigit (filled : text ≠ []) (decimal : ∀ symbol ∈ text, symbol.isDigit = true) :
    digits text = some (text.map fun symbol => symbol.toNat - '0'.toNat) := by
  have bare : '_' ∉ text := fun inside => absurd (decimal _ inside) (by decide)
  have each : text.mapM decimalValue =
      some (text.map fun symbol => symbol.toNat - '0'.toNat) := by
    clear filled bare
    induction text with
    | nil => rfl
    | cons symbol rest ih =>
        rw [List.mapM_cons, decimalValue_of_isDigit (decimal _ List.mem_cons_self),
          ih fun other inside => decimal other (List.mem_cons_of_mem _ inside)]
        rfl
  rw [digits, splitChar_of_not_mem bare]
  simpa [filled] using each

theorem rstripChars_of_forall {removed : Char → Bool}
    (kept : ∀ symbol ∈ text, removed symbol = false) : rstripChars removed text = text := by
  have none_dropped : text.reverse.dropWhile removed = text.reverse := by
    cases reversed : text.reverse with
    | nil => rfl
    | cons symbol rest =>
        have inside : symbol ∈ text :=
          List.mem_reverse.mp (reversed ▸ List.mem_cons_self)
        exact List.dropWhile_cons_of_neg (by simp [kept symbol inside])
  rw [rstripChars, none_dropped, List.reverse_reverse]

theorem lstripChars_of_forall {removed : Char → Bool}
    (kept : ∀ symbol ∈ text, removed symbol = false) : lstripChars removed text = text := by
  cases text with
  | nil => rfl
  | cons symbol rest =>
      exact List.dropWhile_cons_of_neg (by simp [kept symbol List.mem_cons_self])

theorem value_of_isDigit (text : List Char) :
    Numeral.value ⟨false, text.map fun symbol => symbol.toNat - '0'.toNat⟩ =
      Nat.ofDigitChars 10 text 0 := by
  rw [Nat.ofDigitChars_eq_foldl, Numeral.value, ofDigits, List.foldl_map]
  rfl

/-- A number is read back from its decimal digits. -/
theorem numeral_toString (number : Nat) :
    (numeral (toString number)).map Numeral.value = some (number : Int) := by
  have decimal : ∀ symbol ∈ Nat.toDigits 10 number, symbol.isDigit = true := fun symbol inside =>
    Nat.isDigit_of_mem_toDigits (by decide) (by decide) inside
  have filled : Nat.toDigits 10 number ≠ [] := Nat.toDigits_ne_nil
  have dark : ∀ symbol ∈ Nat.toDigits 10 number, isIntSpace symbol = false := fun symbol inside =>
    not_isIntSpace_of_isDigit (decimal symbol inside)
  have spelled : (toString number).toList = Nat.toDigits 10 number := by
    rw [Nat.toString_eq_repr, Nat.toList_repr]
  have read := digits_of_isDigit filled decimal
  have unsigned :
      numeral (toString number) = (digits (Nat.toDigits 10 number)).map (⟨false, ·⟩) := by
    rw [numeral, spelled, lstripChars_of_forall dark, rstripChars_of_forall dark]
    split
    · rename_i rest minus
      exact absurd (decimal '-' (minus ▸ List.mem_cons_self)) (by decide)
    · rename_i rest plus
      exact absurd (decimal '+' (plus ▸ List.mem_cons_self)) (by decide)
    · rfl
  rw [unsigned, read, Option.map_some, Option.map_some, value_of_isDigit,
    Nat.ofDigitChars_ten_toDigits]

end Decimal

end RssiService.Python
