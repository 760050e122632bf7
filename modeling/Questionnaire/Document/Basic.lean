import Questionnaire.Labels
import Questionnaire.Visibility.Map

/-! # Compiled documents

A document lists what a respondent sees: a header for every section, a row for every question under
a section, and a standalone entry for every question of the top level. `Form.compile` walks the
outline with the rules as its test, so a hidden section goes with all below it, and a visible one
has its header even when nothing below it is visible. -/

namespace Questionnaire

/-- A part of a document, free of style. -/
inductive Block where
  | sectionHeader (text : String) (depth : Nat)
  | row (label value : String) (depth : Nat)
  | standalone (label value : String) (answered : Bool)
deriving DecidableEq, Repr

/-- A document ready to be written. -/
structure Document where
  title : String
  description : Option String
  blocks : List Block
deriving DecidableEq, Repr

namespace Block

/-- The depth at which a block stands. -/
def depth : Block → Nat
  | .sectionHeader _ depth | .row _ _ depth => depth
  | .standalone _ _ _ => 0

end Block

/-! ### The text of an answer -/

namespace Question

/-- The text of an answer that is not blank. Choices read as the labels of the options, other
answers as their keys; lists are joined by commas, and null elements are left out. -/
def answerText (q : Question) (labels : Labels) (value : Json) : String :=
  match q.kind, value with
  | .heading, _ => ""
  | .multipleChoice, .arr items =>
    ", ".intercalate ((items.filter fun item => item.key?.isSome).map labels.labelOf)
  | .multipleChoice, value => labels.labelOf value
  | _, .arr items => ", ".intercalate (items.filterMap Json.key?)
  | _, value => value.key?.getD ""

/-- The text of an answer; empty when there is none. -/
def displayValue (q : Question) (answer : Option Json) (labels : Labels) : String :=
  match answer.filter fun value => !value.isBlank with
  | some value => q.answerText labels value
  | none => ""

end Question

/-! ### Compilation -/

/-- The block of a visible question. -/
def Node.block (node : Node) (answers : Answers) (labels : Labels) : Block :=
  let q := node.question
  if q.isSection then .sectionHeader q.text node.depth
  else
    let value := q.displayValue (answers.get? q.id) labels
    if node.depth = 0 then .standalone q.text value (!value.isEmpty)
    else .row q.text value node.depth

/-- The document of a form and the answers to it. -/
def Form.compile (form : Form) (answers : Answers) : Document :=
  let labels := Labels.ofForm form
  { title := form.title
    description := form.description
    blocks := (form.visibleNodes answers).map fun node => node.block answers labels }

end Questionnaire
