import Questionnaire.Text.Quoted
import Questionnaire.Wire.Basic

/-! # Why data is refused

A `Refusal` is the first reason for which data does not have the type that it is held against, and
`Refusal.message` words it. Faults of the text itself are one reason, without details. -/

namespace Questionnaire.Decode

/-- What was found where something else was expected. -/
inductive Found where
  | nothing
  | bool (value : Bool)
  | integer (value : Int)
  | double (value : Number.Extended)
  | text (value : String)
  | bytes
  | list
  | map
deriving DecidableEq

/-- The reason for which data is refused. -/
inductive Refusal where
  /-- The text cannot be read, or holds a value that cannot be kept. -/
  | unreadable
  | wrongType (found : Found) (expected : String)
  | wrongValue (found : Found) (expected : String)
  | wrongLength (length : Nat) (expected : String)
  | unknownVariant (name : String) (expected : List String)
  | missingField (name : String)
  | duplicateField (name : String)
  /-- The value is no id. -/
  | notAnId
deriving DecidableEq

namespace Found

/-- The words for what was found. -/
def describe : Found → String
  | .nothing => "null"
  | .bool value => "boolean `" ++ toString value ++ "`"
  | .integer value => "integer `" ++ toString value ++ "`"
  | .double (.finite x) => "floating point `" ++ x.jsonText ++ "`"
  | .double x => "floating point `" ++ x.keyText ++ "`"
  | .text value => "string " ++ Text.quote value
  | .bytes => "byte array"
  | .list => "sequence"
  | .map => "map"

/-- What data shows itself as; broken data shows as nothing. -/
def ofWire : Wire → Option Found
  | .null | .undefined => some .nothing
  | .bool value => some (.bool value)
  | .integer value => some (.integer value)
  | .double value => some (.double value)
  | .text value => some (.text value)
  | .bytes _ => some .bytes
  | .list _ _ => some .list
  | .map _ _ => some .map
  | .wrapped w => ofWire w
  | .unkept | .broken => none

end Found

namespace Refusal

/-- Names in backquotes, joined as a choice: two with a word between them, more as a list. -/
def choice (names : List String) : String :=
  match names.map fun name => "`" ++ name ++ "`" with
  | [] => "there are no variants"
  | [a] => "expected " ++ a
  | [a, b] => "expected " ++ a ++ " or " ++ b
  | names => "expected one of " ++ ", ".intercalate names

/-- The wording of a refusal. -/
def message : Refusal → String
  | .unreadable => "<json syntax>"
  | .wrongType found expected => "invalid type: " ++ found.describe ++ ", expected " ++ expected
  | .wrongValue found expected => "invalid value: " ++ found.describe ++ ", expected " ++ expected
  | .wrongLength length expected =>
    "invalid length " ++ toString length ++ ", expected " ++ expected
  | .unknownVariant name expected => "unknown variant `" ++ name ++ "`, " ++ choice expected
  | .missingField name => "missing field `" ++ name ++ "`"
  | .duplicateField name => "duplicate field `" ++ name ++ "`"
  | .notAnId => "data did not match any variant of untagged enum Raw"

end Refusal

end Questionnaire.Decode
