import Questionnaire.Interview.Prompt
import Questionnaire.Interview.Reply
import Questionnaire.Service.Functions
import Questionnaire.Service.Response
import Questionnaire.Transcript

/-! # Interviews

An interview asks one question after another. It is a client of the service: it reads the sheet off
the preview for the answers so far, asks the first open question on it, and hands the reply in as a
patch. `Session.take` is one reply: a rejected one is asked for again, a blank one puts the question
on the list of those skipped, and one that does not pass validation leaves the answers as they are.
`Session.converse` takes replies from a list of lines until no question is open or the lines are
used up. -/

namespace Questionnaire.Interview

/-- What stays the same during an interview. -/
structure Setting where
  formId : String
  config : String
  /-- Status and option ids are shown as well. -/
  detailed : Bool
deriving DecidableEq, Repr

/-- Why an interview cannot go on. -/
inductive Fault where
  | response (fault : Service.ResponseFault)
  | sheet (fault : SheetFault)
deriving DecidableEq, Repr

/-- An interview between two replies. -/
structure Session where
  setting : Setting
  sheet : Sheet
  answers : Json
  skipped : List String
  /-- The status of the sheet has yet to be shown. -/
  fresh : Bool

/-! ### Talking to the service -/

namespace Setting

/-- The sheet for some answers. -/
def sheet (setting : Setting) (answers : Json) : Except Fault Sheet := do
  let reply := Service.renderJson setting.formId setting.config answers.compact
  let preview ← (Service.readResponse (Service.respond reply)).mapError .response
  (Sheet.ofJson preview).mapError .sheet

/-- The report on a patch. -/
def submit (setting : Setting) (answers : Json) (id : String) (value : Json) :
    Except Fault Json :=
  let reply := Service.submitPatch setting.formId setting.config answers.compact id value.compact
  (Service.readResponse (Service.respond reply)).mapError .response

/-- The interview that goes on with some answers. -/
def session (setting : Setting) (answers : Json) (skipped : List String) :
    Except Fault Session := do
  return ⟨setting, ← setting.sheet answers, answers, skipped, true⟩

end Setting

/-- What a report says is wrong with the answer to a question. -/
def problemsWith (report : Json) (id : String) : List String :=
  let errors := ((report.field "validation").field "errors").items?.getD []
  (errors.filter fun e => (e.field "question_id").text? == some id).map fun e =>
    (e.field "message").text?.getD "rejected"

/-- The line about an answer that is not accepted. -/
def invalid (message : String) : Output := .complained ("Invalid answer: " ++ message)

/-- What is said about a rejected reply. -/
def Rejection.outputs (reason : Rejection) : List Output :=
  invalid reason.message ::
    (reason.expected?.map fun text => Output.complained ("  Expected: " ++ text)).toList

namespace Session

/-- The question that is asked. -/
def asked? (s : Session) : Option SheetQuestion := s.sheet.next? s.skipped

/-- What is shown when a question is asked. -/
def asking (s : Session) (q : SheetQuestion) : List Output :=
  (if s.fresh && s.setting.detailed then s.sheet.statusLines.map Output.line else []) ++
    ((Prompt.ofQuestion q s.sheet.progress).lines s.setting.detailed).map Output.line ++
    [.printed "> "]

/-- The interview after an answer, and what is said about it. -/
def record (s : Session) (q : SheetQuestion) (value : Json) :
    Except Fault (Session × List Output) := do
  let report ← s.setting.submit s.answers q.id value
  match problemsWith report q.id with
  | [] => return (← s.setting.session (report.field "answers") s.skipped, [])
  | problems => return (← s.setting.session s.answers s.skipped, problems.map invalid)

/-- The interview after a reply to the question, and what is said about it. -/
def take (s : Session) (q : SheetQuestion) (reply : String) :
    Except Fault (Session × List Output) :=
  match readReply q reply with
  | .error reason => .ok ({ s with fresh := false }, reason.outputs)
  | .ok .null => do return (← s.setting.session s.answers (s.skipped ++ [q.id]), [])
  | .ok value => s.record q value

/-- What is told while lines are taken as replies, and how the interview ends. -/
def converse (s : Session) : List String → List Output × Except Fault Session
  | [] => ((s.asked?.map s.asking).getD [], .ok s)
  | line :: lines =>
    match s.asked? with
    | none => ([], .ok s)
    | some q =>
      match s.take q line with
      | .error fault => (s.asking q, .error fault)
      | .ok (next, said) =>
        let (told, ending) := next.converse lines
        (s.asking q ++ said ++ told, ending)

end Session

end Questionnaire.Interview
