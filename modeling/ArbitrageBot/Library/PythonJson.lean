/-
Values that `json.loads` returns, as far as a program looks at them through
`str`, truth and `Decimal(str(x))`. A number is the text that `str` prints of
it.
-/

import ArbitrageBot.Library.DecimalText

namespace PythonJson

open DecimalText PythonDecimal

/-- `container` is a list or an object, with what `str` prints of it. -/
inductive JsonValue
  | null
  | bool (value : Bool)
  | number (printed : String)
  | text (value : String)
  | container (printed : String)
deriving DecidableEq

/-- An object, first binding first. -/
abbrev JsonObject := List (String × JsonValue)

/-- What a text parses to: an object, or any other document. -/
inductive JsonDocument
  | object (entries : JsonObject)
  | other
deriving DecidableEq

def JsonObject.get? (object : JsonObject) (key : String) : Option JsonValue :=
  object.lookup key

/-- `object.get(key, fallback)`: a `null` that is present is returned as such. -/
def JsonObject.getD (object : JsonObject) (key : String) (fallback : JsonValue) : JsonValue :=
  (object.get? key).getD fallback

theorem JsonObject.getD_congr {first second : JsonObject} {key : String} (fallback : JsonValue)
    (same : first.get? key = second.get? key) :
    first.getD key fallback = second.getD key fallback := by
  rw [JsonObject.getD, JsonObject.getD, same]

def JsonValue.str : JsonValue → String
  | .null => "None"
  | .bool true => "True"
  | .bool false => "False"
  | .number printed => printed
  | .text value => value
  | .container printed => printed

/-- `Decimal(str(value))` -/
def JsonValue.decimal (value : JsonValue) : Except String Decimal := parse value.str

/-! ### Truth and text -/

def JsonValue.truthy : JsonValue → Bool
  | .null => false
  | .bool value => value
  | .number printed => parse printed ≠ .ok 0
  | .text value => value ≠ ""
  | .container printed => printed ≠ "[]" ∧ printed ≠ "{}"

/-- `first or second` -/
def orElse (first second : Option JsonValue) : Option JsonValue :=
  if first.any JsonValue.truthy then first else second

/-- `json.dumps` of an object of constants, numbers and texts that need no escape. -/
def dumps (object : JsonObject) : String :=
  "\x7b" ++ ", ".intercalate (object.map fun entry =>
    "\"" ++ entry.1 ++ "\": " ++ match entry.2 with
      | .null => "null"
      | .bool true => "true"
      | .bool false => "false"
      | .number printed => printed
      | .text value => "\"" ++ value ++ "\""
      | .container printed => printed) ++ "\x7d"

def JsonValue.typeName : JsonValue → String
  | .null => "NoneType"
  | .bool _ => "bool"
  | .number printed =>
      if printed.toList.all fun char => isDigit char || char = '-' then "int" else "float"
  | .text _ => "str"
  | .container printed => if printed.toList.head? = some '[' then "list" else "dict"

/-- A value on which `strip` is called unless it is `None`. -/
def optionalText (value : Option JsonValue) : Except String (Option String) :=
  match value with
  | none | some .null => .ok none
  | some (.text content) => .ok (some content)
  | some other =>
      .error ("\x27" ++ other.typeName ++ "\x27 object has no attribute \x27strip\x27")

example : JsonValue.decimal .null = .error "[<class 'decimal.ConversionSyntax'>]" := by decide

end PythonJson
