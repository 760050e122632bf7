import Questionnaire.Decode.Text
import Questionnaire.Template.Functions
import Questionnaire.Template.Reader

/-! # What tags say

A tag holds a path, or the name of a function or block with arguments. An argument is a literal of
JSON, a path, or a call in parentheses; texts may also stand between single quotes, numbers have a
capital `E` before their exponent, and a name and an equals sign may come first. The words that
begin an alternative or name the element of a block are no arguments. -/

namespace Questionnaire.Template

open Reader

/-! ### Names and paths -/

/-- The name of a function or block. -/
def identifier : Reader String := do
  blanks
  return String.ofList (← someOf isSymbol)

/-- A step of a path: a name, or any text between brackets. -/
def step : Reader String :=
  (do exactly ['[']; let name ← span (· != ']'); exactly [']']; return String.ofList name) <|>
    String.ofList <$> someOf isSymbol

/-- What stands between the steps of a path. -/
def separator : Reader Unit := exactly ['.'] <|> exactly ['/']

/-- The value at hand, where a path says that it starts there. -/
def startHere : Reader Unit :=
  (do exactly ['t', 'h', 'i', 's']; separator) <|> exactly ['.', '/']

/-- A path; steps of the name `this` stay where they are. -/
def path : Reader Path := do
  let _ ← found startHere
  let fromRoot ← found do exactly ['@', 'r', 'o', 'o', 't']; separator
  let ofProgress ← found (exactly ['@'])
  let parents ← many do exactly ['.', '.']; separator
  let first ← step
  let more ← many do separator; step
  let steps := (first :: more).filter (· != "this")
  if fromRoot then return ⟨.root, steps⟩
  else if ofProgress then
    return if steps.isEmpty then ⟨.value 0, []⟩ else ⟨.progress parents.length, steps⟩
  else return ⟨.value parents.length, steps⟩

/-! ### Literals -/

/-- The characters behind the quote that ends a text. -/
def behindQuote (quote : Char) : List Char → Option (List Char)
  | [] => none
  | '\\' :: 'u' :: a :: b :: c :: d :: rest =>
    if (Wire.hexUnit? a b c d).isSome then behindQuote quote rest else none
  | '\\' :: e :: rest =>
    if e = quote ∨ (e ≠ '"' ∧ (Wire.shortEscape? e).isSome) then behindQuote quote rest else none
  | c :: rest => if c = quote then some rest else behindQuote quote rest

/-- The extent of a text between quotes. -/
def quotedExtent (quote : Char) : Reader Unit := do
  exactly [quote]
  fun cs => (behindQuote quote cs).map (((), ·))

/-- The extent of a number. -/
def numberExtent : Reader Unit := do
  let _ ← found (exactly ['-'])
  let _ ← someOf Char.isDigit
  let _ ← found (exactly ['.'])
  let _ ← span Char.isDigit
  let _ ← found do
    exactly ['E']
    let _ ← found (exactly ['-'])
    someOf Char.isDigit
  notAhead (oneOf isSymbol)

/-- The extent of a word. -/
def wordExtent (word : String) : Reader Unit := do
  exactly word.toList
  notAhead (oneOf isSymbol)

/-- The extent of items between two marks; the first may be missing. -/
def listExtent (first last : Char) (item : Reader Unit) : Reader Unit := do
  exactly [first]
  let _ ← found item
  let _ ← many do mark [',']; item
  mark [last]

/-- The extent of a literal that nests so many levels at most. -/
def extent : Nat → Reader Unit
  | 0, _ => none
  | levels + 1, cs =>
    let item : Reader Unit := do blanks; extent levels
    let text := quotedExtent '"' <|> quotedExtent '\''
    (text <|> listExtent '[' ']' item <|>
      listExtent '{' '}' (do blanks; text; mark [':']; item) <|>
      numberExtent <|> wordExtent "null" <|> wordExtent "true" <|> wordExtent "false") cs

/-- The characters between single quotes as they stand between double ones. -/
def requoted : List Char → List Char
  | '\\' :: '\'' :: cs => '\'' :: requoted cs
  | '\\' :: c :: cs => '\\' :: c :: requoted cs
  | '"' :: cs => '\\' :: '"' :: requoted cs
  | c :: cs => c :: requoted cs
  | [] => []

/-- The characters of a literal as JSON writes them. -/
def jsonChars : List Char → List Char
  | '\'' :: cs => '"' :: requoted cs.dropLast ++ ['"']
  | cs => cs

/-- The extent of a literal. -/
def literalExtent : Reader Unit := fun cs => extent (cs.length + 1) cs

/-- A literal, which has a value as JSON text. -/
def literal : Reader Expr := do
  let (_, chars) ← withChars literalExtent
  match Json.ofText (String.ofList (jsonChars chars)) with
  | .ok value => return .literal value
  | .error _ => failure

/-! ### Arguments and calls -/

/-- A word that is no argument. -/
def keyword : Reader Unit := do
  exactly ['a', 's'] <|> exactly ['e', 'l', 's', 'e']
  blanks
  notAhead (oneOf isSymbol)

/-- A path with the characters that write it. -/
def spelledPath : Reader (Path × String) := do
  blanks
  let (path, chars) ← withChars path
  return (path, String.ofList chars)

/-- A call in parentheses. -/
def enclosed (argument : Reader Expr) : Reader Expr := do
  mark ['(']
  let call ← (do return .call (← identifier) (← atLeastOne argument)) <|>
    (do return .call (← spelledPath).2 [])
  mark [')']
  return call

/-- The value of an argument. -/
def operand (argument : Reader Expr) : Reader Expr := do
  blanks
  notAhead keyword
  literal <|> do
    notAhead literalExtent
    .path <$> path <|> enclosed argument

/-- An argument in which calls nest so many levels at most. -/
def nestedArgument : Nat → Reader Expr
  | 0, _ => none
  | levels + 1, cs =>
    let operand := operand (nestedArgument levels)
    ((do let name ← identifier; mark ['=']; return .named name (← operand)) <|> operand) cs

/-- An argument. -/
def argument : Reader Expr := fun cs => nestedArgument (cs.length + 1) cs

/-! ### Tags -/

/-- What a tag shows by a single name: a call when it stands in parentheses or names a function,
else a path. -/
def shownName : Reader Node :=
  .outcome <$> enclosed argument <|> do
    let (path, chars) ← spelledPath
    return .value (if isKnownName chars then .call chars [] else .path path)

/-- What a tag shows: a call when it has arguments, else what its name stands for. -/
def shown : Reader Node :=
  (do return .value (.call (← identifier) (← atLeastOne argument))) <|> shownName

/-- The names that a block has for its element and for the key of that element. -/
def params : Reader (List String) := do
  mark ['a', 's']
  mark ['|']
  let element ← identifier
  let key ← (return [← identifier]) <|> return []
  mark ['|']
  return element :: key

/-- The name by which a template is included, up to the end of its characters. -/
def inclusionName : Reader String := do
  blanks
  String.ofList <$> someOf (fun c => isSymbol c || c == '/' || c == '.') <|> do
    let (_, chars) ← withChars (quotedExtent '\'')
    return String.ofList chars

/-- The name of another template and what is handed to it. -/
def inclusion : Reader Inclusion := do
  let name ← (do return Expr.literal (.str (← inclusionName))) <|> enclosed argument <|>
    (do return Expr.literal (.str (← spelledPath).2))
  return ⟨name, ← many argument, [], false⟩

/-- The front of a block. -/
def head : Reader Head := do
  return ⟨← identifier, ← many argument, ← params <|> return []⟩

end Questionnaire.Template
