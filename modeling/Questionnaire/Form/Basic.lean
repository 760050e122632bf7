import Questionnaire.Json.Basic

/-! # Forms

A form is a flat list of questions, each of which may name the section that it stands in, and a list
of rules that show or hide a question depending on an option that another question's answer selects.
Everything is named by an `ItemId`, a text to which numbers are brought by `Json.key?` before they
are compared, so that `2`, `2.0` and `"2"` name the same item. -/

namespace Questionnaire

/-- The name of a form, question, option or rule. -/
@[ext]
structure ItemId where
  text : String
deriving DecidableEq, Repr

/-- The kinds of question. -/
inductive QuestionKind where
  | multipleChoice
  | freeText
  | date
  | number
  /-- A heading that other questions stand under; it has no answer of its own. -/
  | heading
deriving DecidableEq, Repr

namespace QuestionKind

/-- The word for a kind. -/
def label : QuestionKind → String
  | .multipleChoice => "multiple_choice"
  | .freeText => "text"
  | .date => "date"
  | .number => "number"
  | .heading => "section"

/-- The kinds in the order in which a message lists them. -/
def all : List QuestionKind := [.multipleChoice, .freeText, .date, .number, .heading]

/-- The kind is that of sections. -/
def isSection : QuestionKind → Bool
  | .heading => true
  | _ => false

end QuestionKind

/-- An answer that a multiple choice question offers. -/
structure Choice where
  id : ItemId
  text : String
  value : Option String
  orderIndex : Int64
deriving DecidableEq, Repr

/-- A question or section of a form. -/
structure Question where
  id : ItemId
  text : String
  kind : QuestionKind
  parentId : Option ItemId
  orderIndex : Int64
  required : Bool
  allowMultiple : Bool
  description : Option String
  placeholder : Option String
  options : List Choice
deriving DecidableEq, Repr

/-- What a matching rule does to its target. -/
inductive RuleAction where
  | makeVisible
  | makeHidden
  /-- Any other wish; the rule is passed over. -/
  | unknown
deriving DecidableEq, Repr

/-- A rule: when the answer to `trigger` selects `option`, the action is done to `target`. A rule
without one of the three never matches. -/
structure Rule where
  id : ItemId
  target : Option ItemId
  trigger : Option ItemId
  option : Option ItemId
  action : RuleAction
deriving DecidableEq, Repr

/-- A form as the store hands it over. -/
structure Form where
  id : ItemId
  title : String
  description : Option String
  questions : List Question
  rules : List Rule
deriving DecidableEq, Repr

/-! ### Parts of a form -/

namespace Question

/-- The question is a section. -/
def isSection (q : Question) : Bool := q.kind.isSection

/-- Several options may be selected at once. -/
def isMultiSelect (q : Question) : Bool := q.kind == .multipleChoice && q.allowMultiple

/-- The options by order index, equal indexes in the order of the form. -/
def orderedOptions (q : Question) : List Choice :=
  q.options.mergeSort fun a b => decide (a.orderIndex ≤ b.orderIndex)

end Question

namespace Rule

/-- The rule is about the question with this id. -/
def targets (r : Rule) (id : ItemId) : Bool := r.target == some id

/-- The question and option that the rule waits for, when both are set. -/
def triggerPair? (r : Rule) : Option (ItemId × ItemId) :=
  match r.trigger, r.option with
  | some question, some option => some (question, option)
  | _, _ => none

end Rule

namespace Form

/-- The first question with an id. -/
def question? (form : Form) (id : ItemId) : Option Question :=
  form.questions.find? fun q => q.id == id

/-- The options of all questions, in the order of the questions. -/
def allOptions (form : Form) : List Choice := form.questions.flatMap (·.options)

end Form

end Questionnaire
