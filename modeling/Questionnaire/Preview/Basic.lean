import Questionnaire.AnswerSchema
import Questionnaire.Document.Basic

/-! # The live preview

What a respondent is shown while answering: every question of the outline with its visibility and
its answer as text, how many of the visible questions are answered, and the next one that has to be.
A question counts as answered when the text of its answer is not empty. The form is complete when no
visible required question is left (`Form.preview`). -/

namespace Questionnaire

/-- Whether a required question is left. -/
inductive PreviewStatus where
  | needInput
  | complete
deriving DecidableEq, Repr

namespace PreviewStatus

/-- The word for a status. -/
def label : PreviewStatus → String
  | .needInput => "need_input"
  | .complete => "complete"

/-- The status that a word stands for; unknown words ask for input. -/
def ofLabel (word : String) : PreviewStatus := if word = "complete" then .complete else .needInput

end PreviewStatus

/-- An option as it is shown. -/
structure PreviewOption where
  id : String
  text : String
deriving DecidableEq, Repr

/-- How many of the visible questions are answered. -/
structure Progress where
  answered : Nat
  total : Nat
deriving DecidableEq, Repr

/-- A question as it is shown. -/
structure PreviewQuestion where
  id : String
  text : String
  description : Option String
  placeholder : Option String
  kind : QuestionKind
  depth : Nat
  required : Bool
  multiple : Bool
  visible : Bool
  currentValue : Option Json
  displayValue : String
  options : List PreviewOption

/-- A form as it is shown. -/
structure Preview where
  formId : String
  formTitle : String
  help : Option String
  status : PreviewStatus
  nextQuestionId : Option String
  progress : Progress
  questions : List PreviewQuestion
  schema : Json

namespace PreviewQuestion

/-- The question can be answered. -/
def isLeaf (q : PreviewQuestion) : Bool := !q.kind.isSection

/-- The question shows an answer. -/
def isAnswered (q : PreviewQuestion) : Bool := !q.displayValue.isEmpty

/-- A question of the outline as it is shown. -/
def ofNode (node : Node) (visibility : VisibilityMap) (answers : Answers) (labels : Labels) :
    PreviewQuestion :=
  let q := node.question
  { id := q.id.text
    text := q.text
    description := q.description
    placeholder := q.placeholder
    kind := q.kind
    depth := node.depth
    required := q.required
    multiple := q.isMultiSelect
    visible := visibility[q.id.text]?.getD false
    currentValue := answers.get? q.id
    displayValue := q.displayValue (answers.get? q.id) labels
    options := q.orderedOptions.map fun c => ⟨c.id.text, c.text⟩ }

end PreviewQuestion

namespace Preview

/-- The questions that are visible, sections included. -/
def visible (preview : Preview) : List PreviewQuestion := preview.questions.filter (·.visible)

/-- The first question with an id. -/
def question? (preview : Preview) (id : String) : Option PreviewQuestion :=
  preview.questions.find? fun q => q.id == id

/-- The visible questions that can be answered. -/
def visibleLeaves (questions : List PreviewQuestion) : List PreviewQuestion :=
  questions.filter fun q => q.visible && q.isLeaf

/-- The counts over the visible questions that can be answered. -/
def progressOf (questions : List PreviewQuestion) : Progress :=
  let leaves := visibleLeaves questions
  ⟨(leaves.filter (·.isAnswered)).length, leaves.length⟩

/-- The first visible question that is required and not answered. -/
def nextOf (questions : List PreviewQuestion) : Option String :=
  ((visibleLeaves questions).find? fun q => q.required && !q.isAnswered).map (·.id)

end Preview

/-- The preview of a form with some answers. -/
def Form.preview (form : Form) (answers : Answers) : Preview :=
  let visibility := form.effectiveVisibility answers
  let labels := Labels.ofForm form
  let questions := (Outline.ofQuestions form.questions).reachable.map fun node =>
    PreviewQuestion.ofNode node visibility answers labels
  let next := Preview.nextOf questions
  { formId := form.id.text
    formTitle := form.title
    help := form.description
    status := if next.isSome then .needInput else .complete
    nextQuestionId := next
    progress := Preview.progressOf questions
    questions := questions
    schema := form.answerSchema visibility }

end Questionnaire
