import RssiService.Python.Integers

/-!
# Operations that raise

What a program does with a decoded value without knowing its type: it looks a
key up, goes through the items, turns it into a number, and Python raises when
the type is not one that has the operation.
-/

namespace RssiService.Python

/-- The exceptions that the operations on a value raise; a `ValueError` has the
message that is shown. -/
inductive Raised where
  | valueError (message : String)
  | attributeError
  | typeError
  | overflowError
  deriving DecidableEq, Repr

namespace Json

/-- `payload.get(key, default)` on a dictionary. -/
def getOr (fields : List (String × Json)) (key : String) (default : Json) : Json :=
  (fields.lookup key).getD default

/-- The fields of a dictionary; nothing else has the method `get`. -/
def asDict : Json → Except Raised (List (String × Json))
  | .obj fields => .ok fields
  | _ => .error .attributeError

/-- `value.strip()`; nothing but a text has the method. -/
def stripped : Json → Except Raised String
  | .str text => .ok (strip text)
  | _ => .error .attributeError

/-- `list(value)`: the items of a list, the keys of a dictionary, the characters
of a text. -/
def iterate : Json → Except Raised (List Json)
  | .arr items => .ok items
  | .obj fields => .ok (fields.map fun field => .str field.1)
  | .str text => .ok (text.toList.map fun symbol => .str (String.ofList [symbol]))
  | .null | .bool _ | .int _ | .float _ => .error .typeError

def isDict : Json → Bool
  | .obj _ => true
  | _ => false

def isText : Json → Bool
  | .str _ => true
  | _ => false

/-- `value == text`. -/
def equals (value : Json) (text : String) : Bool :=
  match value with
  | .str other => other = text
  | _ => false

/-- `int(text)`; the message shows at most two hundred characters of the text. -/
def intOfText (unicode : Unicode) (text : String) : Except Raised Int :=
  match numeral text with
  | none =>
      .error (.valueError ("invalid literal for int() with base 10: " ++
        takeChars (reprText unicode text) 200))
  | some written =>
      if written.digits.length ≤ maxStrDigits then .ok written.value
      else
        .error (.valueError
          (s!"Exceeds the limit ({maxStrDigits} digits) for integer string conversion: " ++
            s!"value has {written.digits.length} digits; use sys.set_int_max_str_digits() " ++
            "to increase the limit"))

/-- `int(value)`. -/
def toInt (unicode : Unicode) : Json → Except Raised Int
  | .bool value => .ok (if value then 1 else 0)
  | .int value => .ok value
  | .float text =>
      match intOfFloat text with
      | some value => .ok value
      | none =>
          if text = "nan" then .error (.valueError "cannot convert float NaN to integer")
          else .error .overflowError
  | .str text => intOfText unicode text
  | .null | .arr _ | .obj _ => .error .typeError

end Json

end RssiService.Python
