import Questionnaire.Answers
import Questionnaire.Grouping

/-! # Rules

A question is visible when no HIDE rule about it matches and, if there are SHOW rules about it, one
of them does. A rule matches when its trigger and option are set and the answer to the trigger
selects the option. Rules that make a question depend on itself and rules with an unknown action
count for nothing. `Evidence` is what the rules about a question say together; `isVisible` gathers
it from the whole list of rules and `RuleIndex.isVisible` from those that `RuleIndex` has grouped by
target. -/

namespace Questionnaire

/-- The answers select what the rule waits for. -/
def Rule.matchesAnswers (rule : Rule) (answers : Answers) : Bool :=
  match rule.triggerPair? with
  | some (question, option) => answers.selects question option
  | none => false

/-- What the rules seen so far say about a question. -/
structure Evidence where
  hasShow : Bool := false
  showMatched : Bool := false
  hideMatched : Bool := false
deriving DecidableEq, Repr

namespace Evidence

/-- The evidence with one more rule about the question `target`. -/
def add (target : ItemId) (answers : Answers) (e : Evidence) (rule : Rule) : Evidence :=
  if rule.trigger = some target then e
  else
    let matched := rule.matchesAnswers answers
    match rule.action with
    | .makeVisible => { e with hasShow := true, showMatched := e.showMatched || matched }
    | .makeHidden => { e with hideMatched := e.hideMatched || matched }
    | .unknown => e

/-- The decision on the evidence. -/
def visible (e : Evidence) : Bool :=
  if e.hideMatched then false else if e.hasShow then e.showMatched else true

end Evidence

/-- The decision of the rules about the question `target`. -/
def decideVisible (target : ItemId) (rules : List Rule) (answers : Answers) : Bool :=
  (rules.foldl (Evidence.add target answers) {}).visible

/-- The question is visible by its own rules, which are looked for among all rules. -/
def isVisible (q : Question) (rules : List Rule) (answers : Answers) : Bool :=
  decideVisible q.id (rules.filter (·.targets q.id)) answers

/-- Rules by the question that they are about. -/
abbrev RuleIndex := Grouping Rule

namespace RuleIndex

/-- The rules of a form, grouped. -/
def ofRules (rules : List Rule) : RuleIndex :=
  Grouping.ofList (fun r => r.target.map (·.text)) rules

/-- The rules about a question, in the order of the form. -/
def rulesFor (index : RuleIndex) (target : ItemId) : List Rule := index.group target.text

/-- The question is visible by its own rules, which are looked up. -/
def isVisible (index : RuleIndex) (q : Question) (answers : Answers) : Bool :=
  decideVisible q.id (index.rulesFor q.id) answers

end RuleIndex

end Questionnaire
