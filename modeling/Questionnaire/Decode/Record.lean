import Questionnaire.Decode.Basic

/-! # Records

A record arrives as a map from field names or as a list of the fields in order. `Shape` describes
it: its fields (`Slot`), each of which knows whether it has been read and how to read it into the
partly read record, and how the record is completed. Fields that a map does not name and that are
not in the shape are passed over, a field named twice is refused where its name stands, and a field
that is missing is noticed at the end (`Shape.complete`). In a list the leading fields have to be
there, the optional ones at the end may be left out, and no further item may follow. -/

namespace Questionnaire.Decode

/-- A field of a record that is read into a partly read record of type `σ`. -/
structure Slot (σ : Type) where
  names : List String
  /-- A list has to hold the field. -/
  required : Bool
  isRead : σ → Bool
  read : Source → Wire → σ → Except Refusal σ

/-- A record of type `α` with the fields of a partly read record of type `σ`. -/
structure Shape (σ α : Type) where
  name : String
  slots : List (Slot σ)
  start : σ
  complete : σ → Except Refusal α

namespace Slot

variable {σ : Type}

/-- The first of the names, which messages use. -/
def name (slot : Slot σ) : String := slot.names.headD ""

/-- A field of type `α` that is decoded, and kept in the place that `get` and `set` give. -/
def of {α : Type} (names : List String) (required : Bool) (decoder : Decoder α)
    (get : σ → Option α) (set : σ → α → σ) : Slot σ where
  names := names
  required := required
  isRead s := (get s).isSome
  read source w s := set s <$> decoder source w

end Slot

namespace Shape

variable {σ α : Type}

/-- How messages name the type. -/
def typeName (shape : Shape σ α) : String := "struct " ++ shape.name

/-- The field that a key of a map names; a number is the place of the field in the record. -/
def slot? (shape : Shape σ α) : Wire → Except Refusal (Option (Slot σ))
  | .text s => .ok (shape.slots.find? fun slot => slot.names.contains s)
  | .bytes bytes =>
    .ok (shape.slots.find? fun slot =>
      slot.names.any fun name => name.toUTF8.toList == bytes)
  | .integer n =>
    if 0 ≤ n then .ok shape.slots[n.toNat]?
    else .error (.wrongType (.integer n) "field identifier")
  | w => .error (mismatch w "field identifier")

/-- One entry of a map. -/
def readEntry (shape : Shape σ α) (source : Source) (state : σ) (key w : Wire) :
    Except Refusal σ := do
  match ← shape.slot? key with
  | none => (fun _ => state) <$> ignored source w
  | some slot =>
    if slot.isRead state then .error (.duplicateField slot.name)
    else slot.read source w state

/-- The entries of a map one by one, and then its end. -/
def readEntries (shape : Shape σ α) (source : Source) (closed : Bool) (state : σ) :
    List (Wire × Wire) → Except Refusal σ
  | [] => if closed then .ok state else .error .unreadable
  | (key, w) :: rest => do
    let state ← shape.readEntry source state key w
    readEntries shape source closed state rest

/-- A number of items, as a message counts them. -/
def countItems (n : Nat) : String :=
  toString n ++ (if n = 1 then " element in sequence" else " elements in sequence")

/-- The refusal of a list with more items than the record has fields. -/
def surplus (source : Source) (total fields : Nat) : Refusal :=
  match source.encoding with
  | .jsonValue => .wrongLength total "fewer elements in array"
  | .setAside => .wrongLength total (countItems fields)
  | _ => .unreadable

/-- The fields of a list one by one, and then its end; `index` counts the fields before. -/
def readItems (shape : Shape σ α) (source : Source) (closed : Bool) (total : Nat) (state : σ) :
    List (Slot σ) → Nat → List Wire → Except Refusal σ
  | [], index, ws =>
    if ws.isEmpty && closed then .ok state else .error (surplus source total index)
  | slot :: slots, index, w :: ws => do
    let state ← slot.read source w state
    readItems shape source closed total state slots (index + 1) ws
  | slot :: slots, index, [] =>
    if !closed then .error .unreadable
    else if slot.required then
      .error (.wrongLength index
        (shape.typeName ++ " with " ++ toString shape.slots.length ++ " elements"))
    else readItems shape source closed total state slots (index + 1) []

/-- The record in received data. -/
def decode (shape : Shape σ α) : Decoder α := fun source w =>
  match w.unwrapped with
  | .map entries closed => do
    let state ← shape.readEntries (← source.enter) closed shape.start entries
    shape.complete state
  | .list ws closed => do
    let state ← shape.readItems (← source.enter) closed ws.length shape.start shape.slots 0 ws
    shape.complete state
  | w => .error (mismatch w shape.typeName)

end Shape

/-- The value of a field that has to be there. -/
def need {α : Type} (name : String) (value : Option α) : Except Refusal α :=
  match value with
  | some value => .ok value
  | none => .error (.missingField name)

/-! ### Records in which every field has a default -/

/-- A record with the values of the fields read so far, and the names of those. -/
structure Filling (α : Type) where
  value : α
  read : List String

/-- A field that is written over its default. -/
def Slot.update {α β : Type} (name : String) (decoder : Decoder β) (set : α → β → α) :
    Slot (Filling α) where
  names := [name]
  required := false
  isRead s := s.read.contains name
  read source w s := do
    let x ← decoder source w
    return ⟨set s.value x, name :: s.read⟩

/-- A record whose fields are written over the values of `default`. -/
def Shape.filling {α : Type} (name : String) (default : α) (slots : List (Slot (Filling α))) :
    Shape (Filling α) α where
  name := name
  slots := slots
  start := ⟨default, []⟩
  complete s := .ok s.value

/-! ### Names out of a fixed list -/

/-- The value that a name stands for. -/
def named {α : Type} (label : α → String) (all : List α) (name : String) : Except Refusal α :=
  match all.find? fun value => label value == name with
  | some value => .ok value
  | none => .error (.unknownVariant name (all.map label))

/-- The null behind the name in a map. -/
def nullAfterName : Wire → Except Refusal Unit
  | .null => .ok ()
  | w => .error (mismatch w "unit")

/-- A name that stands as a plain string. -/
def tag {α : Type} (label : α → String) (all : List α) : Decoder α := fun source w => do
  named label all (← text "variant identifier" source w)

/-- A name in CBOR: a text, its bytes, or the place in the list. -/
def cborName {α : Type} (label : α → String) (all : List α) : Wire → Except Refusal α
  | .integer n =>
    match if 0 ≤ n then all[n.toNat]? else none with
    | some value => .ok value
    | none => .error (.wrongValue (.integer n) "variant index")
  | w => tag label all .cbor w

/-- A value out of a fixed list by its name, which may also stand as the only key of a map with the
value null, or in CBOR as the first of a list of two with null. -/
def variant {α : Type} (label : α → String) (all : List α) : Decoder α := fun source w =>
  match source.encoding, w with
  | .jsonText, .text s | .jsonValue, .text s | .setAside, .text s => named label all s
  | .jsonText, .map entries closed => do
    let _ ← source.enter
    match entries with
    | [] => .error .unreadable
    | (key, after) :: rest =>
      let value ← tag label all source key
      nullAfterName after
      if rest.isEmpty && closed then return value else .error .unreadable
  | .jsonText, _ => .error .unreadable
  | .jsonValue, .map entries _ | .setAside, .map entries _ =>
    match entries with
    | [(key, after)] => do
      let value ← tag label all source key
      nullAfterName after
      return value
    | _ => .error (.wrongValue .map "map with a single key")
  | .jsonValue, w | .setAside, w => .error (mismatch w "string or map")
  | .cbor, .map [(key, .null)] _ | .cbor, .map [(key, .undefined)] _ => cborName label all key
  | .cbor, .list [key, .null] _ | .cbor, .list [key, .undefined] _ => cborName label all key
  | .cbor, .map _ _ | .cbor, .list _ _ => .error (mismatch w "unit variant")
  | .cbor, w => cborName label all w

end Questionnaire.Decode
