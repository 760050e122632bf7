import Questionnaire.Form.Encode
import Questionnaire.Outline
import Std.Data.TreeSet

/-! # Authoring faults

`Form.lint` looks for what the author of a form is likely to have got wrong: ids used twice,
questions that do not lead up to the top level, options that are never shown, and rules that cannot
work. The findings never change how a form is evaluated. Questions come first, then rules, each in
the order of the form; where questions share an id the last one is meant, and where options do, the
question of the last one owns it. -/

namespace Questionnaire

/-- An authoring fault. -/
inductive Finding where
  | duplicateId (question : ItemId)
  | missingParent (question parent : ItemId)
  | parentNotSection (question parent : ItemId)
  | unreachable (question : ItemId)
  | strayOptions (question : ItemId) (kind : QuestionKind)
  | unknownAction (rule : Rule)
  | incomplete (rule : Rule)
  | unknownTarget (rule : Rule) (target : ItemId)
  | unknownTrigger (rule : Rule) (trigger : ItemId)
  | selfReference (rule : Rule) (target : ItemId)
  | unknownOption (rule : Rule) (option : ItemId)
  | optionMismatch (rule : Rule) (option : ItemId) (owner : String) (trigger : ItemId)
deriving DecidableEq, Repr

namespace Finding

/-- The code of a finding. -/
def code : Finding → String
  | .duplicateId _ => "duplicate_question_id"
  | .missingParent _ _ => "missing_parent"
  | .parentNotSection _ _ => "parent_not_section"
  | .unreachable _ => "unreachable_question"
  | .strayOptions _ _ => "options_on_non_choice"
  | .unknownAction _ => "rule_unknown_action"
  | .incomplete _ => "rule_incomplete"
  | .unknownTarget _ _ => "rule_unknown_target"
  | .unknownTrigger _ _ => "rule_unknown_trigger"
  | .selfReference _ _ => "rule_self_reference"
  | .unknownOption _ _ => "rule_unknown_option"
  | .optionMismatch _ _ _ _ => "rule_option_mismatch"

/-- A question in a message. -/
def question (id : ItemId) : String := "question '" ++ id.text ++ "'"

/-- A rule in a message. -/
def rule (r : Rule) : String := "rule '" ++ r.id.text ++ "'"

/-- The wording of a finding. -/
def message : Finding → String
  | .duplicateId q => "question id '" ++ q.text ++ "' is used more than once"
  | .missingParent q parent =>
    question q ++ " points at missing parent '" ++ parent.text ++ "'"
  | .parentNotSection q parent =>
    question q ++ " is nested under '" ++ parent.text ++ "', which is not a section"
  | .unreachable q => question q ++ " cannot be reached from the top level"
  | .strayOptions q kind =>
    question q ++ " of type " ++ kind.label ++ " carries options that are never shown"
  | .unknownAction r => rule r ++ " is neither SHOW nor HIDE and is ignored"
  | .incomplete r => rule r ++ " is missing its target, trigger or option and never matches"
  | .unknownTarget r target => rule r ++ " targets unknown question '" ++ target.text ++ "'"
  | .unknownTrigger r trigger =>
    rule r ++ " is triggered by unknown question '" ++ trigger.text ++ "'"
  | .selfReference r target =>
    rule r ++ " makes " ++ question target ++ " depend on itself and is ignored"
  | .unknownOption r option => rule r ++ " waits for unknown option '" ++ option.text ++ "'"
  | .optionMismatch r option owner trigger =>
    rule r ++ " waits for option '" ++ option.text ++ "' of question '" ++ owner ++
      "', not of its trigger '" ++ trigger.text ++ "'"

/-- The rule that a finding is about. -/
def rule? : Finding → Option Rule
  | .duplicateId _ | .missingParent _ _ | .parentNotSection _ _ | .unreachable _
  | .strayOptions _ _ => none
  | .unknownAction r | .incomplete r | .unknownTarget r _ | .unknownTrigger r _
  | .selfReference r _ | .unknownOption r _ | .optionMismatch r _ _ _ => some r

/-- The question that a finding is about, for a rule its target. -/
def question? : Finding → Option ItemId
  | .duplicateId q | .missingParent q _ | .parentNotSection q _ | .unreachable q
  | .strayOptions q _ => some q
  | .unknownAction r | .incomplete r | .unknownTarget r _ | .unknownTrigger r _
  | .selfReference r _ | .unknownOption r _ | .optionMismatch r _ _ _ => r.target

/-- A finding as an object. -/
def toJson (finding : Finding) : Json :=
  .object ([("code", .str finding.code), ("message", .str finding.message)] ++
    optionalMember "question_id" (finding.question?.map (·.text)) ++
    optionalMember "rule_id" (finding.rule?.map (·.id.text)))

end Finding

namespace Form

/-! ### Questions -/

/-- The questions whose id an earlier question has; `seen` holds the earlier ids. -/
def duplicates (seen : List ItemId) : List Question → List Finding
  | [] => []
  | q :: rest =>
    (if seen.contains q.id then [.duplicateId q.id] else []) ++ duplicates (q.id :: seen) rest

/-- The questions by id, the last one where several share it. -/
def questionsById (form : Form) : Std.TreeMap String Question :=
  form.questions.foldl (fun map q => map.insert q.id.text q) ∅

/-- The ids of the questions that lead up to the top level. -/
def reachableIds (form : Form) : Std.TreeSet String :=
  .ofList ((Outline.ofQuestions form.questions).reachable.map fun node => node.question.id.text)

/-- What is wrong with the place of a question. -/
def lintPlace (byId : Std.TreeMap String Question) (reachable : Std.TreeSet String)
    (q : Question) : List Finding :=
  match q.parentId with
  | none => []
  | some parent =>
    match byId[parent.text]? with
    | none => [.missingParent q.id parent]
    | some p =>
      if !p.isSection then [.parentNotSection q.id parent]
      else if reachable.contains q.id.text then []
      else [.unreachable q.id]

/-- Options of a question that are never shown. -/
def lintOptions (q : Question) : List Finding :=
  if !q.options.isEmpty && q.kind != .multipleChoice then [.strayOptions q.id q.kind] else []

/-- What is wrong with the questions of a form. -/
def lintQuestions (form : Form) : List Finding :=
  let byId := form.questionsById
  let reachable := form.reachableIds
  duplicates [] form.questions ++
    form.questions.flatMap fun q => lintPlace byId reachable q ++ lintOptions q

/-! ### Rules -/

/-- The question that owns each option, the last one where several options share an id. -/
def optionOwners (form : Form) : Std.TreeMap String String :=
  form.questions.foldl (fun map q =>
    q.options.foldl (fun map c => map.insert c.id.text q.id.text) map) ∅

/-- What is wrong with the option that a rule waits for. -/
def lintOption (owners : Std.TreeMap String String) (rule : Rule) (trigger option : ItemId) :
    List Finding :=
  match owners[option.text]? with
  | none => [.unknownOption rule option]
  | some owner =>
    if owner = trigger.text then [] else [.optionMismatch rule option owner trigger]

/-- What is wrong with a rule. -/
def lintRule (ids : Std.TreeSet String) (owners : Std.TreeMap String String) (rule : Rule) :
    List Finding :=
  (if rule.action = .unknown then [.unknownAction rule] else []) ++
    match rule.target, rule.trigger, rule.option with
    | some target, some trigger, some option =>
      (if ids.contains target.text then [] else [.unknownTarget rule target]) ++
        (if ids.contains trigger.text then [] else [.unknownTrigger rule trigger]) ++
        (if trigger = target then [.selfReference rule target] else []) ++
        lintOption owners rule trigger option
    | _, _, _ => [.incomplete rule]

/-- What is wrong with the rules of a form. -/
def lintRules (form : Form) : List Finding :=
  let ids := Std.TreeSet.ofList (form.questions.map fun q => q.id.text)
  let owners := form.optionOwners
  form.rules.flatMap (lintRule ids owners)

/-- The authoring faults of a form. -/
def lint (form : Form) : List Finding := form.lintQuestions ++ form.lintRules

end Form

end Questionnaire
