import Questionnaire.Preview.Render

/-! # The interview sheet

An interviewer is sent the preview of a form as a JSON value and reads off it what asking the
questions needs (`Sheet.ofJson`). The title, the counts, and the id and text of each question have
to be there; whatever else is missing or of another type takes its usual value. `Sheet.next?` is the
question to ask. -/

namespace Questionnaire.Interview

/-- What a sheet lacks. -/
inductive SheetFault where
  | noTitle
  | noProgress
  | noQuestions
  | noId
  | noText (id : String)
deriving DecidableEq, Repr

namespace SheetFault

/-- The wording of a fault. -/
def message : SheetFault → String
  | .noTitle => "preview payload missing form_title"
  | .noProgress => "preview payload missing progress"
  | .noQuestions => "preview payload missing questions"
  | .noId => "question missing id"
  | .noText id => "question '" ++ id ++ "' missing text"

end SheetFault

/-- A question as the interviewer sees it. -/
structure SheetQuestion where
  id : String
  text : String
  description : Option String
  placeholder : Option String
  kind : QuestionKind
  depth : Nat
  required : Bool
  multiple : Bool
  visible : Bool
  options : List PreviewOption
  /-- The text of the answer, if it is not empty. -/
  displayValue : Option String
deriving DecidableEq, Repr

/-- A preview as the interviewer sees it. -/
structure Sheet where
  title : String
  help : Option String
  status : PreviewStatus
  progress : Progress
  questions : List SheetQuestion
deriving DecidableEq, Repr

/-! ### Reading -/

/-- The value that has to be there. -/
def demand {α : Type} (fault : SheetFault) : Option α → Except SheetFault α
  | some a => .ok a
  | none => .error fault

/-- The kind that a word stands for; unknown words stand for text. -/
def kindOfLabel (word : String) : QuestionKind :=
  (QuestionKind.all.find? fun kind => kind.label == word).getD .freeText

/-- An option that has both its id and its text. -/
def optionOfJson? (value : Json) : Option PreviewOption := do
  return ⟨← (value.field "id").text?, ← (value.field "text").text?⟩

namespace SheetQuestion

/-- A question from its JSON value. -/
def ofJson (value : Json) : Except SheetFault SheetQuestion := do
  let id ← demand .noId (value.field "id").text?
  let text ← demand (.noText id) (value.field "text").text?
  return {
    id := id
    text := text
    description := (value.field "description").text?
    placeholder := (value.field "placeholder").text?
    kind := kindOfLabel ((value.field "type").text?.getD "text")
    depth := (value.field "depth").nat?.getD 0
    required := (value.field "required").bool?.getD true
    multiple := (value.field "multiple").bool?.getD false
    visible := (value.field "visible").bool?.getD true
    options := ((value.field "options").items?.getD []).filterMap optionOfJson?
    displayValue := (value.field "display_value").text?.filter fun text => !text.isEmpty }

end SheetQuestion

/-- The counts of an object. -/
def progressOfJson? (value : Json) : Option Progress :=
  if value.isObject then
    some ⟨(value.field "answered").nat?.getD 0, (value.field "total").nat?.getD 0⟩
  else none

namespace Sheet

/-- A sheet from its JSON value. -/
def ofJson (value : Json) : Except SheetFault Sheet := do
  let title ← demand .noTitle (value.field "form_title").text?
  let progress ← demand .noProgress (progressOfJson? (value.field "progress"))
  let items ← demand .noQuestions (value.field "questions").items?
  return {
    title := title
    help := (value.field "help").text?
    status := .ofLabel ((value.field "status").text?.getD "need_input")
    progress := progress
    questions := ← items.mapM SheetQuestion.ofJson }

/-! ### What to ask -/

/-- The question waits for an answer. -/
def isOpen (skipped : List String) (q : SheetQuestion) : Bool :=
  q.visible && !q.kind.isSection && q.displayValue.isNone && !skipped.contains q.id

/-- The first question that waits for an answer. -/
def next? (sheet : Sheet) (skipped : List String) : Option SheetQuestion :=
  sheet.questions.find? (isOpen skipped)

end Sheet

end Questionnaire.Interview
