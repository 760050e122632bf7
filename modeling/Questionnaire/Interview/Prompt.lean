import Questionnaire.Interview.Sheet

/-! # Prompts

What is shown to a respondent who is asked a question: its place among the questions, its text with
a mark if an answer is required, a hint at the form of the answer, and the options by number. -/

namespace Questionnaire.Interview

/-- What is shown of a question that is asked. -/
structure Prompt where
  index : Nat
  total : Nat
  text : String
  description : Option String
  required : Bool
  hint : Option String
  options : List PreviewOption
deriving DecidableEq, Repr

/-- How an answer of a kind is written. -/
def hint (kind : QuestionKind) (multiple : Bool) (placeholder : Option String) : Option String :=
  match kind with
  | .multipleChoice =>
    some (if multiple then "(numbers or ids, comma separated)" else "(number or id)")
  | .date => some "(YYYY-MM-DD)"
  | .number => some "(number)"
  | .freeText => placeholder.map fun text => "(" ++ text ++ ")"
  | .heading => none

/-- The place behind some answered questions. Places are counted in 64-bit words and start at one
again past the greatest of them. -/
def placeAfter (answered : Nat) : Nat := max 1 ((answered + 1) % 1 <<< 64)

namespace Prompt

/-- The prompt for a question. -/
def ofQuestion (q : SheetQuestion) (progress : Progress) : Prompt where
  index := placeAfter progress.answered
  total := progress.total
  text := q.text
  description := q.description
  required := q.required
  hint := Interview.hint q.kind q.multiple q.placeholder
  options := q.options

/-- The line of the question itself. -/
def headLine (p : Prompt) : String :=
  toString p.index ++ (if p.total > 0 then "/" ++ toString p.total else "") ++ " " ++ p.text ++
    (if p.required then " *" else "") ++ ((p.hint.map (" " ++ ·)).getD "")

/-- The line of an option, with its id if details are wanted. -/
def optionLine (detailed : Bool) (number : Nat) (o : PreviewOption) : String :=
  "  " ++ toString number ++ ". " ++ o.text ++ if detailed then " [" ++ o.id ++ "]" else ""

/-- The lines of the options, numbered from `number` on. -/
def optionLines (detailed : Bool) (number : Nat) : List PreviewOption → List String
  | [] => []
  | o :: rest => optionLine detailed number o :: optionLines detailed (number + 1) rest

/-- The lines of a prompt. -/
def lines (detailed : Bool) (p : Prompt) : List String :=
  p.headLine :: p.description.toList ++ optionLines detailed 1 p.options

end Prompt

/-! ### Around the prompts -/

namespace Sheet

/-- The lines with which an interview opens. -/
def headerLines (sheet : Sheet) : List String := ("Form: " ++ sheet.title) :: sheet.help.toList

/-- The line of a question, with its answer if there is one. -/
def lineOf (q : SheetQuestion) : String :=
  if q.kind.isSection then sectionLine q.depth q.text
  else questionLine q.depth q.id q.text ++ ((q.displayValue.map (" = " ++ ·)).getD "")

/-- The lines that tell where the interview stands. -/
def statusLines (sheet : Sheet) : List String :=
  statusLine sheet.status sheet.progress :: "Visible questions:" ::
    (sheet.questions.filter (·.visible)).map lineOf

end Sheet

end Questionnaire.Interview
