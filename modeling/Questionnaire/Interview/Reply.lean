import Questionnaire.Interview.Sheet
import Questionnaire.Number.Typed
import Questionnaire.Text.Blank

/-! # Replies

How a line that a respondent types becomes an answer. A blank line skips a question whose answer is
not required, which gives null. An option is named by its id or else by its number in the prompt; a
question that takes several options reads them from between commas, each once. -/

namespace Questionnaire.Interview

/-- Why a reply is no answer. -/
inductive Rejection where
  | answerRequired
  | nothingSelected (offered : List PreviewOption)
  | unknownOption (token : String) (offered : List PreviewOption)
  | notANumber (text : String)
deriving DecidableEq, Repr

namespace Rejection

/-- The options with their numbers from `number` on. -/
def offers (number : Nat) : List PreviewOption → List String
  | [] => []
  | o :: rest =>
    (toString number ++ "=" ++ o.text ++ " (" ++ o.id ++ ")") :: offers (number + 1) rest

/-- The wording of a rejection. -/
def message : Rejection → String
  | .answerRequired => "an answer is required"
  | .nothingSelected _ => "select at least one option"
  | .unknownOption token _ => "'" ++ token ++ "' is not one of the options"
  | .notANumber text => "'" ++ text ++ "' is not a number"

/-- What would have been an answer. -/
def expected? : Rejection → Option String
  | .answerRequired => none
  | .nothingSelected offered | .unknownOption _ offered =>
    some (", ".intercalate (offers 1 offered))
  | .notANumber _ => some "a number such as 12 or 4.5"

end Rejection

/-! ### Choices -/

/-- The item at a place counted from one. -/
def atPlace? {α : Type} (items : List α) : Nat → Option α
  | 0 => none
  | n + 1 => items[n]?

/-- The id of the option that a token names: an id before a number. -/
def optionNamed? (options : List PreviewOption) (token : String) : Option String :=
  match options.find? fun o => o.id == token with
  | some o => some o.id
  | none => do
    let place ← Number.readWord? token
    (atPlace? options place).map (·.id)

/-- The names of options in a reply. -/
def tokens (multiple : Bool) (reply : String) : List String :=
  if multiple then ((Text.split ',' reply).map Text.trim).filter fun token => !token.isEmpty
  else [reply]

/-- The ids behind those selected already, each once. -/
def select (options : List PreviewOption) (selected : List String) :
    List String → Except Rejection (List String)
  | [] => .ok selected
  | token :: rest =>
    match optionNamed? options token with
    | none => .error (.unknownOption token options)
    | some id => select options (if selected.contains id then selected else selected ++ [id]) rest

/-- The answer that a reply to a multiple choice question gives. -/
def readChoice (q : SheetQuestion) (reply : String) : Except Rejection Json := do
  match ← select q.options [] (tokens q.multiple reply) with
  | [] => .error (.nothingSelected q.options)
  | id :: more => return if q.multiple then .arr ((id :: more).map .str) else .str id

/-! ### Answers -/

/-- The answer that a reply without blanks around it gives. -/
def readTrimmed (q : SheetQuestion) (reply : String) : Except Rejection Json :=
  if reply.isEmpty then
    if q.required then .error .answerRequired else .ok .null
  else
    match q.kind with
    | .multipleChoice => readChoice q reply
    | .number =>
      match Number.readNumber? reply with
      | some n => .ok (.num n)
      | none => .error (.notANumber reply)
    | .freeText | .date | .heading => .ok (.str reply)

/-- The answer that a line gives. -/
def readReply (q : SheetQuestion) (line : String) : Except Rejection Json :=
  readTrimmed q (Text.trim line)

end Questionnaire.Interview
