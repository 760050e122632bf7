import Questionnaire.Form.Key

/-! # Answers

The answers of a respondent are the members of a JSON object, keyed by question id. Nothing refuses
an answer of an odd shape; those who use it bring it to a text. An answer that is null, an empty
string or an empty list is blank and counts as none (`Json.isBlank`). An answer selects an option
when its key is the option's id, and a list does when one of its elements has that key
(`Answers.selects`). -/

namespace Questionnaire

/-- Null, the empty string and the empty list. -/
def Json.isBlank : Json → Bool
  | .null => true
  | .str s => s.isEmpty
  | .arr items => items.isEmpty
  | _ => false

/-- Answers by question id, as sorted members. -/
structure Answers where
  members : List (String × Json)

namespace Answers

/-- No answers. -/
def empty : Answers := ⟨[]⟩

instance : Inhabited Answers := ⟨empty⟩

/-- The members of an object; any other value holds no answers. -/
def ofJson : Json → Answers
  | .obj members => ⟨members⟩
  | _ => empty

/-- The answers as an object. -/
def toJson (answers : Answers) : Json := .obj answers.members

/-- The answer to a question. -/
def get? (answers : Answers) (id : ItemId) : Option Json := Members.lookup id.text answers.members

/-- The answers with one more, in place of any earlier one to the question. -/
def insert (answers : Answers) (id : ItemId) (value : Json) : Answers :=
  ⟨Members.insert id.text value answers.members⟩

/-- The answers without the one to a question. -/
def erase (answers : Answers) (id : ItemId) : Answers := ⟨Members.erase id.text answers.members⟩

/-- The ids that have an answer, blank ones too. -/
def keys (answers : Answers) : List String := answers.members.map (·.1)

/-- The number of answers, blank ones too. -/
def size (answers : Answers) : Nat := answers.members.length

/-- There are no answers. -/
def isEmpty (answers : Answers) : Bool := answers.members.isEmpty

/-- The answer to a question, unless it is blank. -/
def given? (answers : Answers) (id : ItemId) : Option Json :=
  (answers.get? id).filter fun value => !value.isBlank

/-- The question has an answer that is not blank. -/
def isAnswered (answers : Answers) (id : ItemId) : Bool := (answers.given? id).isSome

/-- The texts that an answer puts forward: those of its elements for a list, else its own. -/
def keysOf : Json → List String
  | .arr items => items.filterMap Json.key?
  | value => value.key?.toList

/-- The answer to `question` selects `option`. -/
def selects (answers : Answers) (question option : ItemId) : Bool :=
  match answers.given? question with
  | some value => (keysOf value).contains option.text
  | none => false

end Answers

end Questionnaire
