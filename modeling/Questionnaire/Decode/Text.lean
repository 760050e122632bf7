import Questionnaire.Decode.Basic
import Questionnaire.Wire.JsonText

/-! # Whole texts

A JSON text is accepted when its value has the type that it is held against and nothing but blanks
follows. The value is looked at first, so its faults come before a surplus behind it. -/

namespace Questionnaire

namespace Decode

/-- The value of a whole JSON text. -/
def ofText {α : Type} (decoder : Decoder α) (text : String) : Except Refusal α := do
  let (w, ended) := Wire.ofJsonText text
  let value ← decoder .jsonText w
  if ended then return value else .error .unreadable

/-- The value that a JSON value in memory stands for. -/
def ofJson {α : Type} (decoder : Decoder α) (value : Json) : Except Refusal α :=
  decoder .jsonValue (.ofJson value)

end Decode

/-- The JSON value that a text writes. -/
def Json.ofText (text : String) : Except Decode.Refusal Json := Decode.ofText Decode.json text

end Questionnaire
