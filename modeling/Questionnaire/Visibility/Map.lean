import Questionnaire.Outline
import Questionnaire.Visibility.Rules

/-! # Visibility of a whole form

`ownVisibility` asks each question's own rules. `effectiveVisibility` is what a respondent sees: a
question shows when its rules and those of every section above it say so, and questions that do not
lead up to the top level do not show. Both are maps from ids; where entries share an id, the last
one counts for the former and any visible one for the latter. -/

namespace Questionnaire

/-- Visible or not, by question id. -/
abbrev VisibilityMap := Std.TreeMap String Bool

namespace VisibilityMap

/-- The ids of the map with their values, as an object. -/
def toJson (map : VisibilityMap) : Json :=
  .obj (map.toList.map fun (id, value) => (id, .bool value))

end VisibilityMap

namespace Form

/-- The decision of each question's own rules. -/
def ownVisibility (form : Form) (answers : Answers) : VisibilityMap :=
  let rules := RuleIndex.ofRules form.rules
  form.questions.foldl (fun map q => map.insert q.id.text (rules.isVisible q answers)) ∅

/-- Every question of the form as hidden. -/
def allHidden (form : Form) : VisibilityMap :=
  form.questions.foldl (fun map q => map.insert q.id.text false) ∅

/-- The questions that a respondent sees, in the order of the outline. -/
def visibleNodes (form : Form) (answers : Answers) : List Node :=
  let rules := RuleIndex.ofRules form.rules
  (Outline.ofQuestions form.questions).walk fun q => rules.isVisible q answers

/-- What a respondent sees. -/
def effectiveVisibility (form : Form) (answers : Answers) : VisibilityMap :=
  (form.visibleNodes answers).foldl (fun map node => map.insert node.question.id.text true)
    form.allHidden

end Form

end Questionnaire
