import Questionnaire.Form.Basic
import Questionnaire.Json.Printer

/-! # Keys of values

Answers are compared with ids as texts. `Json.key?` gives the text of a value: a string is its own
key, a number has the key of `Number.keyText`, in which whole doubles read as integers, and lists
and objects have their compact text, so that odd shapes still compare. Null has no key. -/

namespace Questionnaire.Json

/-- The text by which a value is compared with ids. -/
def key? : Json → Option String
  | .null => none
  | .str s => some s
  | .num n => some n.keyText
  | .bool b => some (toString b)
  | value => some value.compact

end Questionnaire.Json
