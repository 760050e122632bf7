import Questionnaire.Decode.Refusal

/-! # Taking data apart

A `Decoder` holds data against a type and answers the value or the first refusal in the order of the
text. What it needs to know of the encoding is the `Source`: which encoding it is, and how many
levels of lists and maps may still be opened. Values that are kept are limited in depth when they
come from a text; values that are passed over (`Wire.readable`) are not. -/

namespace Questionnaire.Decode

/-- The encodings that data comes from. -/
inductive Encoding where
  | jsonText
  | jsonValue
  /-- A value in memory that was put aside until its variant was known. -/
  | setAside
  | cbor
deriving DecidableEq, Repr

/-- An encoding, and the levels that may still be opened; none means that there is no limit. -/
structure Source where
  encoding : Encoding
  levels : Option Nat
deriving DecidableEq, Repr

namespace Source

/-- The levels that JSON text may nest. -/
def textLevels : Nat := 127

/-- A JSON text from its start. -/
def jsonText : Source := ⟨.jsonText, some textLevels⟩

/-- A JSON value in memory. -/
def jsonValue : Source := ⟨.jsonValue, none⟩

/-- A value that was put aside. -/
def setAside : Source := ⟨.setAside, none⟩

/-- CBOR, whose reader limits the levels itself. -/
def cbor : Source := ⟨.cbor, none⟩

/-- The source inside a list or map. -/
def enter (source : Source) : Except Refusal Source :=
  match source.levels with
  | none => .ok source
  | some 0 => .error .unreadable
  | some (n + 1) => .ok { source with levels := some n }

end Source

/-- How data of a type is taken apart. -/
abbrev Decoder (α : Type) := Source → Wire → Except Refusal α

/-- The refusal of data that has another type than the expected one. -/
def mismatch (w : Wire) (expected : String) : Refusal :=
  match Found.ofWire w with
  | some found => .wrongType found expected
  | none => .unreadable

/-- The text that bytes encode. -/
def textOfBytes? (bytes : List UInt8) : Option String := String.fromUTF8? ⟨bytes.toArray⟩

/-! ### Scalars -/

/-- A text. -/
def text (expected : String) : Decoder String := fun _ w =>
  match w with
  | .text s => .ok s
  | .bytes bytes =>
    match textOfBytes? bytes with
    | some s => .ok s
    | none => .error (.wrongValue .bytes expected)
  | w => .error (mismatch w expected)

/-- A string. -/
def string : Decoder String := text "a string"

/-- A truth value. -/
def bool : Decoder Bool := fun _ w =>
  match w with
  | .bool value => .ok value
  | w => .error (mismatch w "a boolean")

/-- An integer that a type of words holds: those from `low` to `high`. -/
def integer (expected : String) (low high : Int) : Decoder Int := fun _ w =>
  match w with
  | .integer n =>
    if low ≤ n ∧ n ≤ high then .ok n else .error (.wrongValue (.integer n) expected)
  | w => .error (mismatch w expected)

/-- A signed 64-bit integer. -/
def int64 : Decoder Int64 := fun source w =>
  Int64.ofInt <$> integer "i64" (-(1 <<< 63)) (1 <<< 63 - 1) source w

/-- An unsigned 32-bit integer. -/
def word32 : Decoder UInt32 := fun source w =>
  (fun n => UInt32.ofNat n.toNat) <$> integer "u32" 0 (1 <<< 32 - 1) source w

/-- A size, a natural number below `2 ^ 64`. -/
def size : Decoder Nat := fun source w =>
  Int.toNat <$> integer "usize" 0 (1 <<< 64 - 1) source w

/-- A value that may be null. -/
def nullable {α : Type} (decoder : Decoder α) : Decoder (Option α) := fun source w =>
  match w with
  | .null => .ok none
  | w => some <$> decoder source w

/-! ### Lists -/

/-- The items of a list one by one, and then its end. -/
def items {α : Type} (decoder : Decoder α) (source : Source) (closed : Bool) :
    List Wire → Except Refusal (List α)
  | [] => if closed then .ok [] else .error .unreadable
  | item :: rest => do
    let value ← decoder source item
    let values ← items decoder source closed rest
    return value :: values

/-- A list. -/
def list {α : Type} (decoder : Decoder α) : Decoder (List α) := fun source w =>
  match w.unwrapped with
  | .list ws closed => do items decoder (← source.enter) closed ws
  | w => .error (mismatch w "a sequence")

/-! ### Values of any type -/

mutual

/-- The data can be passed over. -/
def readable : Wire → Bool
  | .broken => false
  | .list ws closed => readableItems ws && closed
  | .map entries closed => readableEntries entries && closed
  | .wrapped w => readable w
  | _ => true

/-- The items of a list can be passed over. -/
def readableItems : List Wire → Bool
  | [] => true
  | w :: rest => readable w && readableItems rest

/-- The entries of a map can be passed over. -/
def readableEntries : List (Wire × Wire) → Bool
  | [] => true
  | (key, value) :: rest => readableKey key && readable value && readableEntries rest

/-- The data can be passed over as a key. -/
def readableKey : Wire → Bool
  | .broken => false
  | _ => true

end

/-- Data that is passed over. -/
def ignored : Decoder Unit := fun _ w => if readable w then .ok () else .error .unreadable

/-- The JSON number of a double; the values that JSON has no number for become null. -/
def jsonDouble : Number.Extended → Json
  | .finite x => .num (.double x)
  | _ => .null

mutual

/-- Any JSON value; of equal keys in an object the last wins. -/
def json (source : Source) : Wire → Except Refusal Json
  | .null | .undefined => .ok .null
  | .bool value => .ok (.bool value)
  | .integer n =>
    match Number.ofInt? n with
    | some number => .ok (.num number)
    | none => .error (.wrongValue (.integer n) "any valid JSON value")
  | .double x => .ok (jsonDouble x)
  | .text s => .ok (.str s)
  | .list ws closed => do
    let inner ← source.enter
    return .arr (← jsonItems inner closed ws)
  | .map entries closed => do
    let inner ← source.enter
    return .obj (← jsonMembers inner closed [] entries)
  | .wrapped w => json source w
  | w => .error (mismatch w "any valid JSON value")

/-- The items of an array. -/
def jsonItems (source : Source) (closed : Bool) : List Wire → Except Refusal (List Json)
  | [] => if closed then .ok [] else .error .unreadable
  | w :: rest => do
    let value ← json source w
    let values ← jsonItems source closed rest
    return value :: values

/-- The members of an object, put one after another to those that came before. -/
def jsonMembers (source : Source) (closed : Bool) (before : List (String × Json)) :
    List (Wire × Wire) → Except Refusal (List (String × Json))
  | [] => if closed then .ok before else .error .unreadable
  | (key, w) :: rest => do
    let name ← jsonKey key
    let value ← json source w
    jsonMembers source closed (Members.insert name value before) rest

/-- The key of a member. -/
def jsonKey : Wire → Except Refusal String
  | .text s => .ok s
  | _ => .error .unreadable

end

end Questionnaire.Decode
