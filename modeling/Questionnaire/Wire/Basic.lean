import Questionnaire.Json.Basic

/-! # Received data

`Wire` is what an encoding says before it is held against a type: JSON text, a JSON value in memory
and CBOR all arrive in this form. The reader of a text never fails. Where the text stops being
readable the value says so: a list or map that is not `closed` breaks off after its last element,
and `broken` stands for a value that cannot be made out. `unkept` is a scalar that is written
correctly and may be passed over, but that no value corresponds to. So whoever takes the value apart
in the order of the text meets the first fault first. -/

namespace Questionnaire

/-- Data as an encoding gives it. -/
inductive Wire where
  | null
  /-- The value that stands for no value at all. -/
  | undefined
  | bool (value : Bool)
  | integer (value : Int)
  | double (value : Number.Extended)
  | text (value : String)
  | bytes (value : List UInt8)
  | list (items : List Wire) (closed : Bool)
  | map (entries : List (Wire × Wire)) (closed : Bool)
  /-- A list or map behind a tag, or a map whose length is not in its first byte; it names no
  variant. -/
  | wrapped (value : Wire)
  /-- A scalar that can be passed over but not kept. -/
  | unkept
  /-- Where nothing can be read. -/
  | broken

namespace Wire

instance : Inhabited Wire := ⟨.broken⟩

/-- The list or map that is wrapped. -/
def unwrapped : Wire → Wire
  | .wrapped w => w
  | w => w

/-- Data behind a tag; a null is then no more the sign of a missing value. -/
def tagged : Wire → Wire
  | .null => .undefined
  | .list items closed => .wrapped (.list items closed)
  | .map entries closed => .wrapped (.map entries closed)
  | w => w

/-- A number as data. -/
def ofNumber : Number → Wire
  | .integer n _ => .integer n
  | .double x => .double (.finite x)

mutual

/-- A JSON value as data. -/
def ofJson : Json → Wire
  | .null => .null
  | .bool b => .bool b
  | .num n => ofNumber n
  | .str s => .text s
  | .arr items => .list (ofItems items) true
  | .obj members => .map (ofMembers members) true

/-- The items of an array as data. -/
def ofItems : List Json → List Wire
  | [] => []
  | item :: rest => ofJson item :: ofItems rest

/-- The members of an object as data. -/
def ofMembers : List (String × Json) → List (Wire × Wire)
  | [] => []
  | (key, value) :: rest => (.text key, ofJson value) :: ofMembers rest

end

end Wire

end Questionnaire
