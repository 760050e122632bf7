import Questionnaire.Form.Encode

/-! # Writing CBOR

A JSON value as CBOR: every item has a head with its major type and an argument in the fewest bytes
(`head`), texts are UTF-8, lists and maps give their length in advance, and members stand in the
order of the object. Doubles are written in full. -/

namespace Questionnaire.Cbor

/-- The bytes of a number, the most significant first. -/
def bigEndian (n : Nat) : Nat → List UInt8
  | 0 => []
  | count + 1 => UInt8.ofNat (n >>> (8 * count)) :: bigEndian n count

/-- A first byte with a major type and five bits of information. -/
def initialByte (major info : Nat) : UInt8 := UInt8.ofNat (32 * major + info)

/-- The head of an item with a major type and an argument below `2 ^ 64`. -/
def head (major argument : Nat) : List UInt8 :=
  if argument < 24 then [initialByte major argument]
  else if argument < 1 <<< 8 then initialByte major 24 :: bigEndian argument 1
  else if argument < 1 <<< 16 then initialByte major 25 :: bigEndian argument 2
  else if argument < 1 <<< 32 then initialByte major 26 :: bigEndian argument 4
  else initialByte major 27 :: bigEndian argument 8

/-- A text. -/
def text (s : String) : List UInt8 :=
  let bytes := s.toUTF8.toList
  head 3 bytes.length ++ bytes

/-- An integer; negative ones count from minus one downwards. -/
def integer (n : Int) : List UInt8 := if 0 ≤ n then head 0 n.toNat else head 1 (-1 - n).toNat

mutual

/-- A JSON value. -/
def ofJson : Json → List UInt8
  | .null => [initialByte 7 22]
  | .bool false => [initialByte 7 20]
  | .bool true => [initialByte 7 21]
  | .num (.integer n _) => integer n
  | .num (.double x) => initialByte 7 27 :: bigEndian x.toBits 8
  | .str s => text s
  | .arr items => head 4 items.length ++ ofItems items
  | .obj members => head 5 members.length ++ ofMembers members

/-- The items of a list. -/
def ofItems : List Json → List UInt8
  | [] => []
  | item :: rest => ofJson item ++ ofItems rest

/-- The members of an object, each key before its value. -/
def ofMembers : List (String × Json) → List UInt8
  | [] => []
  | (key, value) :: rest => text key ++ ofJson value ++ ofMembers rest

end

end Questionnaire.Cbor

namespace Questionnaire

/-- A form as CBOR. -/
def Form.toCbor (form : Form) : List UInt8 := Cbor.ofJson form.toJson

end Questionnaire
