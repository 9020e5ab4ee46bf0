import Mathlib.Data.List.Basic

/-!
# Text operations

The string methods the application calls, on lists of characters.  What depends
on the Unicode character tables is a parameter.
-/

namespace RssiService.Python

/-- The character tables behind the case, normalization and display methods. -/
structure Unicode where
  lower : String → String
  nfkc : String → String
  printable : Char → Bool

/-- The characters `str.strip` removes. -/
def isSpace (symbol : Char) : Bool :=
  let code := symbol.toNat
  (9 ≤ code && code ≤ 13) || (28 ≤ code && code ≤ 32) || code = 0x85 || code = 0xA0 ||
    code = 0x1680 || (0x2000 ≤ code && code ≤ 0x200A) || code = 0x2028 || code = 0x2029 ||
    code = 0x202F || code = 0x205F || code = 0x3000

def lstripChars (removed : Char → Bool) (text : List Char) : List Char :=
  text.dropWhile removed

def rstripChars (removed : Char → Bool) (text : List Char) : List Char :=
  (text.reverse.dropWhile removed).reverse

def strip (text : String) : String :=
  String.ofList (rstripChars isSpace (lstripChars isSpace text.toList))

theorem strip_ofList {symbols : List Char}
    (bare : rstripChars isSpace (lstripChars isSpace symbols) = symbols) :
    strip (String.ofList symbols) = String.ofList symbols := by
  rw [strip, String.toList_ofList, bare]

/-- `part in text`. -/
def contains (text part : String) : Bool :=
  text.toList.tails.any fun suffix => part.toList.isPrefixOf suffix

/-- `text[:count]`. -/
def takeChars (text : String) (count : Nat) : String :=
  String.ofList (text.toList.take count)

/-- `text or default`: an empty text is false. -/
def textOr (text default : String) : String :=
  if text = "" then default else text

/-- `partition`: the text before the first separator, whether there is one, and
the text after it. -/
def partition (separator : Char) : List Char → List Char × Bool × List Char
  | [] => ([], false, [])
  | symbol :: rest =>
      if symbol = separator then ([], true, rest)
      else
        let (before, found, after) := partition separator rest
        (symbol :: before, found, after)

theorem partition_append {separator : Char} {before : List Char} (bare : separator ∉ before)
    (after : List Char) :
    partition separator (before ++ separator :: after) = (before, true, after) := by
  induction before with
  | nil => exact if_pos rfl
  | cons symbol rest ih =>
      rw [List.mem_cons, not_or] at bare
      rw [List.cons_append, partition, if_neg fun same => bare.1 same.symm, ih bare.2]

theorem not_mem_partition (separator : Char) (text : List Char) :
    separator ∉ (partition separator text).1 := by
  induction text with
  | nil => exact List.not_mem_nil
  | cons symbol rest ih =>
      rw [partition]
      split
      · exact List.not_mem_nil
      · rename_i other
        rw [List.mem_cons, not_or]
        exact ⟨fun same => other same.symm, ih⟩

/-- `split`: the texts between the separators. -/
def splitChar (separator : Char) : List Char → List (List Char)
  | [] => [[]]
  | symbol :: rest =>
      match splitChar separator rest with
      | [] => [[symbol]]
      | part :: parts => if symbol = separator then [] :: part :: parts else (symbol :: part) :: parts

/-- The last component of `rpartition`: the text after the last separator, or
the whole text. -/
def afterLast (separator : Char) (text : List Char) : List Char :=
  (text.reverse.takeWhile fun symbol => symbol ≠ separator).reverse

end RssiService.Python
