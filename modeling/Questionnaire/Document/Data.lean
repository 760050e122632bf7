import Questionnaire.Decode.Record
import Questionnaire.Document.Basic
import Questionnaire.Form.Encode

/-! # Documents as data

A document is written as an object with its members in the order of the records. Each block is an
object whose member `kind` says which of the three it is; when a document is read, that member is
looked for first and the others are put aside until it is known. -/

namespace Questionnaire

open Decode

/-! ### Writing -/

/-- A block as an object. -/
def Block.toJson : Block → Json
  | .sectionHeader text depth =>
    .obj [("kind", .str "section_header"), ("text", .str text), ("depth", .ofNat depth)]
  | .row label value depth =>
    .obj [("kind", .str "label_value_row"), ("label", .str label), ("value_text", .str value),
      ("depth", .ofNat depth)]
  | .standalone label value answered =>
    .obj [("kind", .str "standalone_question"), ("label", .str label), ("value_text", .str value),
      ("answered", .bool answered)]

/-- A document as an object. -/
def Document.toJson (document : Document) : Json :=
  .obj ([("title", .str document.title)] ++
    optionalMember "description" document.description ++
    [("blocks", .arr (document.blocks.map Block.toJson))])

/-! ### Reading -/

namespace Block

/-- The kinds of block. -/
inductive Kind where
  | sectionHeader
  | row
  | standalone

/-- The word for a kind of block. -/
def Kind.label : Kind → String
  | .sectionHeader => "section_header"
  | .row => "label_value_row"
  | .standalone => "standalone_question"

/-- The kinds in the order in which a message lists them. -/
def Kind.all : List Kind := [.sectionHeader, .row, .standalone]

/-- A partly read block of any kind. -/
structure Draft where
  text : Option String := none
  label : Option String := none
  value : Option String := none
  depth : Option Nat := none
  answered : Option Bool := none

/-- The text of a section. -/
def textSlot : Slot Draft :=
  .of ["text"] true string (·.text) fun d x => { d with text := some x }

/-- The text of a question. -/
def labelSlot : Slot Draft :=
  .of ["label"] true string (·.label) fun d x => { d with label := some x }

/-- The text of an answer. -/
def valueSlot : Slot Draft :=
  .of ["value_text"] true string (·.value) fun d x => { d with value := some x }

/-- The depth of a block. -/
def depthSlot : Slot Draft :=
  .of ["depth"] true size (·.depth) fun d x => { d with depth := some x }

/-- Whether a question is answered. -/
def answeredSlot : Slot Draft :=
  .of ["answered"] true bool (·.answered) fun d x => { d with answered := some x }

/-- The record of a kind of block. -/
def Kind.shape : Kind → Shape Draft Block
  | .sectionHeader =>
    { name := "variant Block::SectionHeader"
      slots := [textSlot, depthSlot]
      start := {}
      complete d := do return .sectionHeader (← need "text" d.text) (← need "depth" d.depth) }
  | .row =>
    { name := "variant Block::LabelValueRow"
      slots := [labelSlot, valueSlot, depthSlot]
      start := {}
      complete d := do
        return .row (← need "label" d.label) (← need "value_text" d.value)
          (← need "depth" d.depth) }
  | .standalone =>
    { name := "variant Block::StandaloneQuestion"
      slots := [labelSlot, valueSlot, answeredSlot]
      start := {}
      complete d := do
        return .standalone (← need "label" d.label) (← need "value_text" d.value)
          (← need "answered" d.answered) }

/-- The entry of a map that says the kind. -/
def isKindEntry (entry : Wire × Wire) : Bool :=
  match entry.1 with
  | .text key => key == "kind"
  | _ => false

/-- A block in a value in memory. -/
def decode : Decoder Block := fun source w =>
  match w with
  | .map entries closed => do
    match entries.find? isKindEntry with
    | none => .error (.missingField "kind")
    | some (_, value) =>
      let kind ← tag Kind.label Kind.all source value
      kind.shape.decode .setAside (.map (entries.filter fun entry => !isKindEntry entry) closed)
  | .list (value :: rest) closed => do
    let kind ← tag Kind.label Kind.all source value
    kind.shape.decode .setAside (.list rest closed)
  | .list [] _ => .error (.missingField "kind")
  | w => .error (mismatch w "internally tagged enum Block")

end Block

namespace Document

/-- A partly read document. -/
structure Draft where
  title : Option String := none
  description : Option (Option String) := none
  blocks : Option (List Block) := none

/-- The record of a document. -/
def shape : Shape Draft Document where
  name := "CompiledDocument"
  slots := [
    .of ["title"] true string (·.title) fun d x => { d with title := some x },
    .of ["description"] false (nullable string) (·.description) fun d x =>
      { d with description := some x },
    .of ["blocks"] true (list Block.decode) (·.blocks) fun d x => { d with blocks := some x }]
  start := {}
  complete d := do
    return {
      title := ← need "title" d.title
      description := d.description.getD none
      blocks := ← need "blocks" d.blocks }

/-- A document in a value in memory. -/
def decode : Decoder Document := shape.decode

end Document

end Questionnaire
