import Questionnaire.Decode.Text

/-! # Reading responses

What a host gets back from the service is a text. An object with a text under `error` reports a
failure. `readResponse` expects JSON otherwise; `readTextResponse` takes any text as it is, JSON or
not, unless it reports a failure. -/

namespace Questionnaire.Service

/-- Why a response is no answer. -/
inductive ResponseFault where
  | unreadable
  | reported (message : String)
deriving DecidableEq, Repr

/-- The failure that a value reports. -/
def reportedFailure? (value : Json) : Option String := (value.field "error").text?

/-- The value of a response. -/
def readResponse (response : String) : Except ResponseFault Json :=
  match Json.ofText response with
  | .error _ => .error .unreadable
  | .ok value =>
    match reportedFailure? value with
    | some message => .error (.reported message)
    | none => .ok value

/-- The text of a response. -/
def readTextResponse (response : String) : Except ResponseFault String :=
  match Json.ofText response with
  | .error _ => .ok response
  | .ok value =>
    match reportedFailure? value with
    | some message => .error (.reported message)
    | none => .ok response

end Questionnaire.Service
