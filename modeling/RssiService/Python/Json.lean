import RssiService.Python.Text

/-!
# JSON values

The values that `json` decodes: dictionaries keep their insertion order and
floats keep the text they print as.
-/

namespace RssiService.Python

inductive Json where
  | null
  | bool (value : Bool)
  | int (value : Int)
  | float (text : String)
  | str (text : String)
  | arr (items : List Json)
  | obj (fields : List (String × Json))
  deriving Repr

namespace Json

/-- Induction over a value, with one hypothesis for every item and every field. -/
@[elab_as_elim, induction_eliminator]
theorem inductionOn {motive : Json → Prop} (value : Json)
    (null : motive .null) (bool : ∀ value, motive (.bool value))
    (int : ∀ value, motive (.int value)) (float : ∀ text, motive (.float text))
    (str : ∀ text, motive (.str text))
    (arr : ∀ items, (∀ item ∈ items, motive item) → motive (.arr items))
    (obj : ∀ fields, (∀ field ∈ fields, motive field.2) → motive (.obj fields)) :
    motive value := by
  refine @Json.rec motive (fun items => ∀ item ∈ items, motive item)
    (fun fields => ∀ field ∈ fields, motive field.2) (fun field => motive field.2)
    null bool int float str arr obj ?_ ?_ ?_ ?_ ?_ value
  · intro item member
    cases member
  · intro item rest ihItem ihRest other member
    rcases List.mem_cons.mp member with rfl | later
    · exact ihItem
    · exact ihRest other later
  · intro field member
    cases member
  · intro field rest ihField ihRest other member
    rcases List.mem_cons.mp member with rfl | later
    · exact ihField
    · exact ihRest other later
  · intro key value ih
    exact ih

mutual

/-- The string leaves of a value, dictionary keys excluded, in order. -/
def strings : Json → List String
  | .null | .bool _ | .int _ | .float _ => []
  | .str text => [text]
  | .arr items => stringsItems items
  | .obj fields => stringsFields fields

def stringsItems : List Json → List String
  | [] => []
  | item :: rest => item.strings ++ stringsItems rest

def stringsFields : List (String × Json) → List String
  | [] => []
  | (_, value) :: rest => value.strings ++ stringsFields rest

end

mutual

/-- The texts the floats of a value print as, in order. -/
def floats : Json → List String
  | .null | .bool _ | .int _ | .str _ => []
  | .float text => [text]
  | .arr items => floatsItems items
  | .obj fields => floatsFields fields

def floatsItems : List Json → List String
  | [] => []
  | item :: rest => item.floats ++ floatsItems rest

def floatsFields : List (String × Json) → List String
  | [] => []
  | (_, value) :: rest => value.floats ++ floatsFields rest

end

/-- Every float prints as a text. -/
def Printed (value : Json) : Prop := "" ∉ value.floats

instance (value : Json) : Decidable value.Printed := inferInstanceAs (Decidable (¬ _))

/-! ## Dictionaries -/

/-- `payload.get(key)`; a missing key and a value that is no dictionary give
`None`. -/
def get (payload : Json) (key : String) : Json :=
  match payload with
  | .obj fields => (fields.lookup key).getD .null
  | _ => .null

/-- `value in (None, "")`. -/
def isBlank : Json → Bool
  | .null => true
  | .str text => text = ""
  | _ => false

/-- `bool(value)`. -/
def isTruthy : Json → Bool
  | .null => false
  | .bool value => value
  | .int value => value ≠ 0
  | .float text => text ≠ "0.0" && text ≠ "-0.0"
  | .str text => text ≠ ""
  | .arr items => !items.isEmpty
  | .obj fields => !fields.isEmpty

def isContainer : Json → Bool
  | .arr _ | .obj _ => true
  | _ => false

/-! ## Texts -/

def hexDigits (width code : Nat) : List Char :=
  let digits := Nat.toDigits 16 code
  List.replicate (width - digits.length) '0' ++ digits

/-- One character inside a quoted text. -/
def reprChar (unicode : Unicode) (quote symbol : Char) : List Char :=
  if symbol = quote || symbol = '\\' then ['\\', symbol]
  else if symbol = '\n' then ['\\', 'n']
  else if symbol = '\r' then ['\\', 'r']
  else if symbol = '\t' then ['\\', 't']
  else if unicode.printable symbol then [symbol]
  else
    let code := symbol.toNat
    if code < 0x100 then ['\\', 'x'] ++ hexDigits 2 code
    else if code < 0x10000 then ['\\', 'u'] ++ hexDigits 4 code
    else ['\\', 'U'] ++ hexDigits 8 code

/-- A text in single quotes, or in double quotes when it holds single quotes only. -/
def reprText (unicode : Unicode) (text : String) : String :=
  let symbols := text.toList
  let quote := if symbols.contains '\'' && !symbols.contains '"' then '"' else '\''
  String.ofList ([quote] ++ symbols.flatMap (reprChar unicode quote) ++ [quote])

mutual

/-- `repr(value)`. -/
def repr (unicode : Unicode) : Json → String
  | .null => "None"
  | .bool value => if value then "True" else "False"
  | .int value => toString value
  | .float text => text
  | .str text => reprText unicode text
  | .arr items => "[" ++ String.intercalate ", " (reprItems unicode items) ++ "]"
  | .obj fields => "\x7b" ++ String.intercalate ", " (reprFields unicode fields) ++ "\x7d"

def reprItems (unicode : Unicode) : List Json → List String
  | [] => []
  | item :: rest => item.repr unicode :: reprItems unicode rest

def reprFields (unicode : Unicode) : List (String × Json) → List String
  | [] => []
  | (key, value) :: rest =>
      (reprText unicode key ++ ": " ++ value.repr unicode) :: reprFields unicode rest

end

/-- `str(value)`: a text is itself, anything else prints as its `repr`. -/
def toStr (unicode : Unicode) : Json → String
  | .str text => text
  | value => value.repr unicode

/-- A scalar that is neither missing nor the empty text prints as some text. -/
theorem toStr_ne_empty {unicode : Unicode} {value : Json} (scalar : value.isContainer = false)
    (present : value.isBlank = false) (printed : value.Printed) : value.toStr unicode ≠ "" := by
  cases value with
  | null => cases present
  | bool value =>
      cases value with
      | false => exact show "False" ≠ "" by decide
      | true => exact show "True" ≠ "" by decide
  | int value =>
      show toString value ≠ ""
      cases value with
      | ofNat count => exact Nat.repr_ne_empty
      | negSucc count =>
          intro blank
          have texts := congrArg String.toList blank
          rw [show toString (Int.negSucc count) = "-" ++ Nat.repr (count + 1) from rfl,
            String.toList_append] at texts
          cases texts
  | float text => exact fun blank => printed (List.mem_singleton.mpr blank.symm)
  | str text => simpa [toStr, isBlank] using present
  | arr items => cases scalar
  | obj fields => cases scalar

end Json

end RssiService.Python
