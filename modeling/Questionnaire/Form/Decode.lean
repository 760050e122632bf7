import Questionnaire.Decode.Record
import Questionnaire.Decode.Text
import Questionnaire.Form.Basic

/-! # Forms as data

The records of a form as `Form.ofJsonText` and `Form.ofWire` read them. Ids come as strings or
numbers and are kept as texts. The wish of a rule may be any value: the two words `SHOW` and `HIDE`
are understood, a rule without a wish shows, and every other value is an unknown wish. -/

namespace Questionnaire

open Decode

/-! ### Ids and words -/

/-- An id: a string or a number. -/
def ItemId.decode : Decoder ItemId := fun source w =>
  match w with
  | .text s => .ok ⟨s⟩
  | .integer n => if Number.IntegerRange n then .ok ⟨toString n⟩ else .error .notAnId
  | .double x => .ok ⟨x.keyText⟩
  | .bytes bytes =>
    match textOfBytes? bytes with
    | some s => .ok ⟨s⟩
    | none => .error .notAnId
  | w => do
    let _ ← json source w
    .error .notAnId

/-- The kind of a question. -/
def QuestionKind.decode : Decoder QuestionKind := variant QuestionKind.label QuestionKind.all

/-- The action that a value asks for. -/
def RuleAction.ofJson : Json → RuleAction
  | .str s => if s = "SHOW" then .makeVisible else if s = "HIDE" then .makeHidden else .unknown
  | _ => .unknown

/-- The action of a rule. -/
def RuleAction.decode : Decoder RuleAction := fun source w => RuleAction.ofJson <$> json source w

/-! ### Choices -/

namespace Choice

/-- A partly read choice. -/
structure Draft where
  id : Option ItemId := none
  text : Option String := none
  value : Option (Option String) := none
  orderIndex : Option Int64 := none

/-- The record of a choice. -/
def shape : Shape Draft Choice where
  name := "OptionSpec"
  slots := [
    .of ["id"] true ItemId.decode (·.id) fun d x => { d with id := some x },
    .of ["text"] true string (·.text) fun d x => { d with text := some x },
    .of ["value"] false (nullable string) (·.value) fun d x => { d with value := some x },
    .of ["orderIndex"] false int64 (·.orderIndex) fun d x => { d with orderIndex := some x }]
  start := {}
  complete d := do
    return {
      id := ← need "id" d.id
      text := ← need "text" d.text
      value := d.value.getD none
      orderIndex := d.orderIndex.getD 0 }

/-- A choice in received data. -/
def decode : Decoder Choice := shape.decode

end Choice

/-! ### Questions -/

namespace Question

/-- A partly read question. -/
structure Draft where
  id : Option ItemId := none
  text : Option String := none
  kind : Option QuestionKind := none
  parentId : Option (Option ItemId) := none
  orderIndex : Option Int64 := none
  required : Option Bool := none
  allowMultiple : Option Bool := none
  description : Option (Option String) := none
  placeholder : Option (Option String) := none
  options : Option (List Choice) := none

/-- The record of a question; a question is required unless it says otherwise. -/
def shape : Shape Draft Question where
  name := "QuestionSpec"
  slots := [
    .of ["id"] true ItemId.decode (·.id) fun d x => { d with id := some x },
    .of ["text"] true string (·.text) fun d x => { d with text := some x },
    .of ["type"] true QuestionKind.decode (·.kind) fun d x => { d with kind := some x },
    .of ["parentId"] false (nullable ItemId.decode) (·.parentId) fun d x =>
      { d with parentId := some x },
    .of ["orderIndex"] false int64 (·.orderIndex) fun d x => { d with orderIndex := some x },
    .of ["required"] false bool (·.required) fun d x => { d with required := some x },
    .of ["allowMultipleAnswers"] false bool (·.allowMultiple) fun d x =>
      { d with allowMultiple := some x },
    .of ["description"] false (nullable string) (·.description) fun d x =>
      { d with description := some x },
    .of ["placeholder"] false (nullable string) (·.placeholder) fun d x =>
      { d with placeholder := some x },
    .of ["options", "Options"] false (list Choice.decode) (·.options) fun d x =>
      { d with options := some x }]
  start := {}
  complete d := do
    return {
      id := ← need "id" d.id
      text := ← need "text" d.text
      kind := ← need "type" d.kind
      parentId := d.parentId.getD none
      orderIndex := d.orderIndex.getD 0
      required := d.required.getD true
      allowMultiple := d.allowMultiple.getD false
      description := d.description.getD none
      placeholder := d.placeholder.getD none
      options := d.options.getD [] }

/-- A question in received data. -/
def decode : Decoder Question := shape.decode

end Question

/-! ### Rules -/

namespace Rule

/-- A partly read rule. -/
structure Draft where
  id : Option ItemId := none
  target : Option (Option ItemId) := none
  trigger : Option (Option ItemId) := none
  option : Option (Option ItemId) := none
  action : Option RuleAction := none

/-- The record of a rule. -/
def shape : Shape Draft Rule where
  name := "LogicRule"
  slots := [
    .of ["id"] true ItemId.decode (·.id) fun d x => { d with id := some x },
    .of ["targetQuestionId"] false (nullable ItemId.decode) (·.target) fun d x =>
      { d with target := some x },
    .of ["triggerQuestionId"] false (nullable ItemId.decode) (·.trigger) fun d x =>
      { d with trigger := some x },
    .of ["triggerOptionId"] false (nullable ItemId.decode) (·.option) fun d x =>
      { d with option := some x },
    .of ["action"] false RuleAction.decode (·.action) fun d x => { d with action := some x }]
  start := {}
  complete d := do
    return {
      id := ← need "id" d.id
      target := d.target.getD none
      trigger := d.trigger.getD none
      option := d.option.getD none
      action := d.action.getD .makeVisible }

/-- A rule in received data. -/
def decode : Decoder Rule := shape.decode

end Rule

/-! ### Forms -/

namespace Form

/-- A partly read form. -/
structure Draft where
  id : Option ItemId := none
  title : Option String := none
  description : Option (Option String) := none
  questions : Option (List Question) := none
  rules : Option (List Rule) := none

/-- The record of a form. -/
def shape : Shape Draft Form where
  name := "FormSpec"
  slots := [
    .of ["id"] true ItemId.decode (·.id) fun d x => { d with id := some x },
    .of ["title"] true string (·.title) fun d x => { d with title := some x },
    .of ["description"] false (nullable string) (·.description) fun d x =>
      { d with description := some x },
    .of ["questions", "Questions"] false (list Question.decode) (·.questions) fun d x =>
      { d with questions := some x },
    .of ["rules", "LogicRules"] false (list Rule.decode) (·.rules) fun d x =>
      { d with rules := some x }]
  start := {}
  complete d := do
    return {
      id := ← need "id" d.id
      title := ← need "title" d.title
      description := d.description.getD none
      questions := d.questions.getD []
      rules := d.rules.getD [] }

/-- A form in received data. -/
def decode : Decoder Form := shape.decode

end Form

/-- The form that a JSON text writes. -/
def Form.ofText (text : String) : Except Refusal Form := Decode.ofText Form.decode text

end Questionnaire
