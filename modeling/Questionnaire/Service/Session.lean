import Questionnaire.Service.Functions

/-! # Sessions

A host that answers a form question by question hands the answers of each report back with the next
patch, as text. A patch that fails leaves them as they are. -/

namespace Questionnaire.Service

/-- An answer to a question, as text. -/
structure Patch where
  questionId : String
  value : String
deriving DecidableEq, Repr

/-- The answers that a report holds, as text. -/
def answersAfter (report : Json) : String := (report.field "answers").compact

/-- The outcome of a patch and the answers after it. -/
def sessionStep (formId config answers : String) (patch : Patch) : Reply Json × String :=
  let reply := submitPatch formId config answers patch.questionId patch.value
  match reply with
  | .ok report => (reply, answersAfter report)
  | .error _ => (reply, answers)

/-- The outcomes of patches that are made one after another. -/
def session (formId config answers : String) : List Patch → List (Reply Json)
  | [] => []
  | patch :: patches =>
    let (reply, answers) := sessionStep formId config answers patch
    reply :: session formId config answers patches

/-- The text of no answers, with which a session starts. -/
def noAnswers : String := Answers.empty.toJson.compact

end Questionnaire.Service
