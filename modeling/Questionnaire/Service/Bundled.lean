import Questionnaire.Form.Basic

/-! # The bundled form

The form that is served when the configuration names none: a short intake interview. -/

namespace Questionnaire.Service

/-- An option of the bundled form. -/
def bundledChoice (id text : String) (value : Option String) (order : Int64) : Choice :=
  ⟨⟨id⟩, text, value, order⟩

/-- A question of the bundled form. -/
def bundledQuestion (id text : String) (kind : QuestionKind) (parent : Option String)
    (order : Int64) : Question where
  id := ⟨id⟩
  text := text
  kind := kind
  parentId := parent.map ItemId.mk
  orderIndex := order
  required := true
  allowMultiple := false
  description := none
  placeholder := none
  options := []

/-- A rule of the bundled form. -/
def bundledRule (id target trigger option : String) (action : RuleAction) : Rule :=
  ⟨⟨id⟩, some ⟨target⟩, some ⟨trigger⟩, some ⟨option⟩, action⟩

/-- The bundled form. -/
def bundledForm : Form where
  id := ⟨"12"⟩
  title := "Intake interview"
  description := some "Occupational therapy intake, first appointment."
  questions := [
    bundledQuestion "1" "Client" .heading none 0,
    bundledQuestion "2" "Full name" .freeText (some "1") 0,
    { bundledQuestion "3" "Referral type" .multipleChoice (some "1") 1 with
      options := [bundledChoice "31" "GP" (some "gp") 0,
        bundledChoice "32" "Specialist" (some "specialist") 1] },
    bundledQuestion "4" "Specialist details" .heading (some "1") 2,
    bundledQuestion "5" "Specialism" .freeText (some "4") 0,
    { bundledQuestion "6" "Referral date" .date (some "4") 1 with required := false },
    { bundledQuestion "7" "Goals" .multipleChoice none 1 with
      allowMultiple := true
      description := some "Select every goal that applies."
      options := [bundledChoice "71" "Mobility" none 0, bundledChoice "72" "Self-care" none 1,
        bundledChoice "73" "Work" none 2] },
    { bundledQuestion "8" "Hours worked per week" .number none 2 with required := false },
    { bundledQuestion "9" "Remarks" .freeText none 3 with required := false }]
  rules := [
    bundledRule "1" "4" "3" "32" .makeVisible,
    bundledRule "2" "8" "7" "73" .makeVisible,
    bundledRule "3" "9" "3" "31" .makeHidden]

end Questionnaire.Service
