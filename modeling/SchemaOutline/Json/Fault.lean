import SchemaOutline.Json.Printer
import SchemaOutline.Json.Reader
import SchemaOutline.Text.Shown

/-!
# Faults of JSON data

Why a JSON value is not the record, list or scalar that was expected, and the wording of it.

* `Json.DataFault` — the causes.
* `Json.Kind` — what can be expected.
* `DataFault.message`, `TextFault.message` — the wording.
* `Json.Reading` — the result of reading, and readers of scalars, lists and optional values.
-/

namespace SchemaOutline.Json

/-- What a reader of JSON data expects. -/
inductive Kind where
  | record (name : String)
  | sequence
  | map
  | text
  | boolean
  | path
  | port
  deriving DecidableEq

/-- The words for what is expected. -/
def Kind.words : Kind → String
  | record name => "struct " ++ name
  | sequence => "a sequence"
  | map => "a map"
  | text => "a string"
  | boolean => "a boolean"
  | path => "path string"
  | port => "u16"

/-- **Why a JSON value is not what was expected.** A value of another kind; a number outside the
range; an object without a field; a list with an element too few or too many; a value that none of
the forms of a union fits. -/
inductive DataFault where
  | wrongKind (found : Json) (expected : Kind)
  | outOfRange (found : Whole) (expected : Kind)
  | missingField (name : String)
  | tooShort (length : Nat) (record : String) (fields : Nat)
  | tooLong (length : Nat)
  | noForm (union : String)
  deriving DecidableEq

/-- The words for a value that stands where another kind is expected. -/
def foundWords : Json → String
  | null => "null"
  | bool true => "boolean `true`"
  | bool false => "boolean `false`"
  | whole n => "integer `" ++ String.ofList n.chars ++ "`"
  | float x => "floating point `" ++ String.ofList x.jsonChars ++ "`"
  | text s => "string " ++ Text.shown s
  | list _ => "sequence"
  | object _ => "map"

/-- The wording of a fault. -/
def DataFault.message : DataFault → String
  | wrongKind found expected =>
    "invalid type: " ++ found.foundWords ++ ", expected " ++ expected.words
  | outOfRange found expected =>
    "invalid value: " ++ (whole found).foundWords ++ ", expected " ++ expected.words
  | missingField name => "missing field `" ++ name ++ "`"
  | tooShort length record fields =>
    "invalid length " ++ Text.natural length ++ ", expected struct " ++ record ++ " with " ++
      Text.natural fields ++ (if fields = 1 then " element" else " elements")
  | tooLong length =>
    "invalid length " ++ Text.natural length ++ ", expected fewer elements in array"
  | noForm union => "data did not match any variant of untagged enum " ++ union

/-- The wording of a fault of a text. -/
def TextFault.message : TextFault → String
  | malformed => "malformed text"
  | truncated => "text ends too early"

/-- The result of reading JSON data. -/
abbrev Reading (α : Type) := Except DataFault α

/-! ## Scalars, lists and optional values -/

/-- A text. -/
def readText : Json → Reading String
  | text s => .ok s
  | other => .error (.wrongKind other .text)

/-- A truth value. -/
def readBool : Json → Reading Bool
  | bool b => .ok b
  | other => .error (.wrongKind other .boolean)

/-- The path of a file, given as a text. -/
def readPath : Json → Reading String
  | text s => .ok s
  | other => .error (.wrongKind other .path)

/-- A port: a whole number of 16 bits. -/
def readPort : Json → Reading UInt16
  | whole n =>
    if 0 ≤ n.value ∧ n.value < 65536 then .ok (UInt16.ofNat n.value.toNat)
    else .error (.outOfRange n .port)
  | other => .error (.wrongKind other .port)

/-- A list, each element read in its turn. -/
def readList {α : Type} (read : Json → Reading α) : Json → Reading (List α)
  | list elements => elements.mapM read
  | other => .error (.wrongKind other .sequence)

/-- A value that `null` stands for the absence of. -/
def readOption {α : Type} (read : Json → Reading α) : Json → Reading (Option α)
  | null => .ok none
  | value => some <$> read value

end SchemaOutline.Json
