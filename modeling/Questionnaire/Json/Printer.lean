import Questionnaire.Json.Basic

/-! # JSON text

`Json.compact` writes a value without blanks and `Json.pretty` with two blanks for each level and a
member or item to a line, empty lists and objects staying on one. Strings are written between double
quotes; only the quote, the backslash and the control characters below the blank are escaped, the
latter by their short form where there is one. Members are written in the order in which the object
holds them. -/

namespace Questionnaire

namespace Json

/-- A hexadecimal digit, in lower case. -/
def hexDigit (n : Nat) : Char :=
  if n < 10 then Char.ofNat ('0'.toNat + n) else Char.ofNat ('a'.toNat + (n - 10))

/-- A character as it stands between the quotes of a string. -/
def escapeChar (c : Char) : List Char :=
  if c = '"' then ['\\', '"']
  else if c = '\\' then ['\\', '\\']
  else if c = '\n' then ['\\', 'n']
  else if c = '\r' then ['\\', 'r']
  else if c = '\t' then ['\\', 't']
  else if c = '\x08' then ['\\', 'b']
  else if c = '\x0c' then ['\\', 'f']
  else if c.toNat < 32 then ['\\', 'u', '0', '0', hexDigit (c.toNat / 16), hexDigit (c.toNat % 16)]
  else [c]

/-- The characters of a string between its quotes. -/
def escape (text : List Char) : List Char := text.flatMap escapeChar

/-- A string between double quotes. -/
def quoted (text : String) : List Char := '"' :: escape text.toList ++ ['"']

/-! ### Compact text -/

mutual

/-- The characters of a value without blanks. -/
def compactChars : Json → List Char
  | .null => "null".toList
  | .bool true => "true".toList
  | .bool false => "false".toList
  | .num n => n.jsonText.toList
  | .str text => quoted text
  | .arr items => '[' :: compactItems items
  | .obj members => '{' :: compactMembers members

/-- The items of an array and its closing bracket. -/
def compactItems : List Json → List Char
  | [] => [']']
  | item :: rest => compactChars item ++ compactMoreItems rest

/-- The items after the first, each behind a comma. -/
def compactMoreItems : List Json → List Char
  | [] => [']']
  | item :: rest => ',' :: compactChars item ++ compactMoreItems rest

/-- The members of an object and its closing brace. -/
def compactMembers : List (String × Json) → List Char
  | [] => ['}']
  | (key, value) :: rest => quoted key ++ ':' :: compactChars value ++ compactMoreMembers rest

/-- The members after the first, each behind a comma. -/
def compactMoreMembers : List (String × Json) → List Char
  | [] => ['}']
  | (key, value) :: rest =>
    ',' :: quoted key ++ ':' :: compactChars value ++ compactMoreMembers rest

end

/-- The compact text of a value. -/
def compact (value : Json) : String := String.ofList (compactChars value)

/-! ### Indented text -/

/-- A line break and the indentation of a level. -/
def newLine (level : Nat) : List Char := '\n' :: List.replicate (2 * level) ' '

mutual

/-- The characters of a value whose own line is indented by `level`. -/
def prettyChars (level : Nat) : Json → List Char
  | .arr [] => ['[', ']']
  | .obj [] => ['{', '}']
  | .arr (item :: rest) =>
    '[' :: newLine (level + 1) ++ prettyChars (level + 1) item ++ prettyItems level rest
  | .obj ((key, value) :: rest) =>
    '{' :: newLine (level + 1) ++ quoted key ++ [':', ' '] ++ prettyChars (level + 1) value ++
      prettyMembers level rest
  | .null => "null".toList
  | .bool true => "true".toList
  | .bool false => "false".toList
  | .num n => n.jsonText.toList
  | .str text => quoted text

/-- The items after the first, and the closing bracket. -/
def prettyItems (level : Nat) : List Json → List Char
  | [] => newLine level ++ [']']
  | item :: rest =>
    ',' :: newLine (level + 1) ++ prettyChars (level + 1) item ++ prettyItems level rest

/-- The members after the first, and the closing brace. -/
def prettyMembers (level : Nat) : List (String × Json) → List Char
  | [] => newLine level ++ ['}']
  | (key, value) :: rest =>
    ',' :: newLine (level + 1) ++ quoted key ++ [':', ' '] ++ prettyChars (level + 1) value ++
      prettyMembers level rest

end

/-- The indented text of a value. -/
def pretty (value : Json) : String := String.ofList (prettyChars 0 value)

end Json

end Questionnaire
