import Questionnaire.Decode.Refusal
import Questionnaire.Files.Disk
import Questionnaire.Glob.Basic
import Questionnaire.Interview.Session

/-! # Failures

Why a command fails once its arguments are understood. -/

namespace Questionnaire.CommandLine

/-- The cause of a failed command. -/
inductive Failure where
  | file (fault : FileFault)
  | notText
  | answersNotJson
  | form (reason : Decode.Refusal)
  | config (reason : Decode.Refusal)
  | formNotCbor
  | template
  | glob (fault : GlobFault)
  | response (fault : Service.ResponseFault)
  | sheet (fault : Interview.SheetFault)
  | documentExists (path : String)
  | noOutputFolder
  | noAnswersFiles (folder pattern : String)
  | batchFailed (failed total : Nat)
  | invalidAnswers
  | lintFindings (count : Nat)
  | formRequired

namespace Failure

/-- The wording of a failure. -/
def message : Failure → String
  | .file fault => fault.message
  | .notText => "stream did not contain valid UTF-8"
  | .answersNotJson => "<json error>"
  | .form reason | .config reason => reason.message
  | .formNotCbor => "the form is not readable as CBOR"
  | .template => "the file name template cannot be rendered"
  | .glob _ => "the pattern is not a glob"
  | .response .unreadable => "<json error>"
  | .response (.reported message) => message
  | .sheet fault => "preview error: " ++ fault.message
  | .documentExists path => "'" ++ path ++ "' already exists; pass --force to overwrite"
  | .noOutputFolder => "output directory cannot be empty"
  | .noAnswersFiles folder pattern =>
    "no answers files in '" ++ folder ++ "' match '" ++ pattern ++ "'"
  | .batchFailed failed total =>
    toString failed ++ " of " ++ toString total ++ " answers files failed"
  | .invalidAnswers => "validation failed"
  | .lintFindings count => toString count ++ " lint issue(s) found"
  | .formRequired => "--form is required for the answers schema"

/-- The failure of an interview. -/
def ofFault : Interview.Fault → Failure
  | .response fault => .response fault
  | .sheet fault => .sheet fault

end Failure

end Questionnaire.CommandLine
