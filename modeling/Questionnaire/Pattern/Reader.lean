import Questionnaire.Pattern.Basic
import Questionnaire.Text.Blank
import Questionnaire.Text.Digit
import Questionnaire.Text.Letter
import Questionnaire.Wire.JsonText

/-! # Reading patterns

`Pattern.ofText?` takes a pattern apart. Patterns are read where a comma, an equals sign or a
closing brace ends them, so a number of repetitions and everything else that needs a closing brace
cannot be written. A flag lets blanks and comments stand between the signs. -/

namespace Questionnaire.Pattern

/-- What is still to be read, whether blanks and comments are passed over, and the names so far. -/
structure Rest where
  chars : List Char
  skipsBlanks : Bool
  names : List String

/-- Reads something off the front of a pattern. -/
abbrev Reader (α : Type) := StateT Rest Option α

namespace Reader

/-! ### Characters -/

/-- Characters without the blanks and comments in front, of which so many are looked at. -/
def withoutBlanks : Nat → List Char → List Char
  | left + 1, c :: cs =>
    if Text.isBlank c then withoutBlanks left cs
    else if c = '#' then withoutBlanks left (cs.dropWhile (· != '\n'))
    else c :: cs
  | _, cs => cs

/-- Blanks and comments are passed over, if they are. -/
def blanks : Reader Unit := modify fun rest =>
  if rest.skipsBlanks then
    { rest with chars := withoutBlanks rest.chars.length rest.chars }
  else rest

/-- The first character, which stays. -/
def peek : Reader (Option Char) := return (← get).chars.head?

/-- The characters are in front. -/
def isAhead (chars : List Char) : Reader Bool := return chars.isPrefixOf (← get).chars

/-- So many characters are passed over. -/
def skip (n : Nat) : Reader Unit := modify fun rest => { rest with chars := rest.chars.drop n }

/-- The next character. -/
def next : Reader Char := do
  match (← get).chars with
  | c :: cs =>
    modify fun rest => { rest with chars := cs }
    return c
  | [] => failure

/-- A character is there. -/
def more : Reader Unit := do if (← get).chars.isEmpty then failure

/-- The next character, behind which there are more. -/
def nextOfMore : Reader Char := do
  let c ← next
  blanks
  more
  return c

/-! ### Escapes -/

/-- The signs that mean something without a backslash. -/
def signs : List Char := "\\.+*?()|[]\x7b\x7d^$#&-~".toList

/-- The character can stand behind a backslash for itself. -/
def isEscapable (c : Char) : Bool :=
  signs.contains c || (isPlain c && !c.isAlphanum && c != '<' && c != '>')

/-- The value of so many hexadecimal digits at least one, the last of which may end the pattern. -/
def hexDigits (value : Nat) : Nat → Reader Nat
  | 0 => return value
  | 1 => do
    let digit ← Wire.hexValue? (← next)
    blanks
    return 16 * value + digit
  | left + 2 => do
    let digit ← Wire.hexValue? (← nextOfMore)
    hexDigits (16 * value + digit) (left + 1)

/-- A character by its number, of so many digits. -/
def numbered (digits : Nat) : Reader Atom := do
  blanks
  let code ← hexDigits 0 digits
  if code.isValidChar then return .char (Char.ofNat code) (digits == 2) else failure

/-- The letters of properties. -/
def propertyLetters : List Char := "clmnpsz".toList

/-- A property by its letter. -/
def property : Reader Atom := do
  blanks
  let c ← next
  blanks
  if propertyLetters.contains c.toLower then return .property else failure

/-- What stands behind a backslash. -/
def escape : Reader Atom := do
  let c ← next
  match c with
  | 'x' => numbered 2
  | 'u' => numbered 4
  | 'U' => numbered 8
  | 'p' | 'P' => property
  | 'd' | 's' | 'w' => return .kind false
  | 'D' | 'S' | 'W' => return .kind true
  | 'a' | 'f' | 't' | 'n' | 'r' | 'v' => return .char c false
  | 'A' | 'z' => return .edge
  | 'b' | 'B' | '<' | '>' => return .wordEdge
  | c => if isEscapable c then return .char c false else failure

/-- A character or what stands for one. -/
def atom : Reader Atom := do
  match ← next with
  | '\\' => escape
  | '.' => return .dot
  | '^' | '$' => return .edge
  | c => return .char c false

/-! ### Classes -/

/-- The names of classes. -/
def classNames : List String :=
  ["alnum", "alpha", "ascii", "blank", "cntrl", "digit", "graph", "lower", "print", "punct",
    "space", "upper", "word", "xdigit"]

/-- A named class between brackets and colons. -/
def namedClass : Reader CharSet := do
  if !(← isAhead ['[', ':']) then failure
  skip 2
  let negated ← isAhead ['^']
  if negated then skip 1
  let name := (← get).chars.takeWhile (· != ':')
  skip name.length
  if !(← isAhead [':', ']']) then failure
  skip 2
  if classNames.contains (String.ofList name) then return .named negated else failure

/-- A member of a class: any character, or an escape. -/
def member : Reader Atom := do
  match ← next with
  | '\\' => escape
  | c => return .char c false

/-- The character that follows the next one, with blanks and the sign of a comment passed over. -/
def second : Reader (Option Char) := do
  let rest ← get
  let cs := rest.chars.tail
  if !rest.skipsBlanks then return cs.head?
  match cs.dropWhile Text.isBlank with
  | '#' :: cs => return (cs.dropWhile Text.isBlank).head?
  | cs => return cs.head?

/-- The number of a character that can be an end of a range. -/
def bound? : Atom → Option Nat
  | .char c _ => some c.toNat
  | _ => none

/-- The atom can be a member of a class. -/
def isMember : Atom → Bool
  | .char _ _ | .kind _ | .property => true
  | .dot | .edge | .wordEdge => false

/-- A member of a class, or a range. -/
def range : Reader CharSet := do
  let first ← member
  blanks
  more
  let after ← second
  if (← peek) != some '-' || after == some ']' || after == some '-' then
    if isMember first then return .atom first else failure
  else
    let _ ← nextOfMore
    let last ← member
    if (← bound? first) ≤ (← bound? last) then return .range first last else failure

/-- Hyphens at the front of a class. -/
def hyphens : Nat → Reader (List CharSet)
  | 0 => return []
  | left + 1 => do
    if ← isAhead ['-'] then
      let c ← nextOfMore
      return .atom (.char c false) :: (← hyphens left)
    else return []

/-- The front of a class behind its bracket: whether it is negated, and the first members. -/
def classFront : Reader (Bool × List CharSet) := do
  let _ ← nextOfMore
  let negated ← isAhead ['^']
  if negated then let _ ← nextOfMore
  let front ← hyphens (← get).chars.length
  if front.isEmpty && (← isAhead [']']) then
    let c ← nextOfMore
    return (negated, [.atom (.char c false)])
  else return (negated, front)

/-- A set with the one in front of a sign. -/
def combine (left : Option CharSet) (items : List CharSet) : CharSet :=
  match left with
  | none => .ofItems items
  | some left => .combined left (.ofItems items)

/-- The rest of a class, in which so many characters are looked at. -/
def classRest (left : Option CharSet) (items : List CharSet) : Nat → Reader CharSet
  | 0 => failure
  | steps + 1 => do
    blanks
    more
    if ← isAhead [']'] then
      skip 1
      return combine left items
    else if (← isAhead ['&', '&']) || (← isAhead ['-', '-']) || (← isAhead ['~', '~']) then
      skip 2
      classRest (some (combine left items)) [] steps
    else if ← isAhead ['['] then
      let item ← namedClass <|> do
        let (negated, front) ← classFront
        return .bracketed negated (← classRest none front steps)
      classRest left (items ++ [item]) steps
    else classRest left (items ++ [← range]) steps

/-- A class in brackets. -/
def bracketed : Reader Pattern := do
  let steps := (← get).chars.length
  let (negated, front) ← classFront
  return .oneOf negated (← classRest none front steps)

/-! ### Groups -/

/-- The character can stand in the name of a group; not all can stand in front. -/
def isNameChar (front : Bool) (c : Char) : Bool :=
  if front then c == '_' || (Text.isLetterOrDigit c && !Text.isDigit c)
  else c == '_' || c == '.' || c == '[' || c == ']' || Text.isLetterOrDigit c

/-- The name of a group, up to a closing angle bracket; no two groups have one name. -/
def groupName : Reader Unit := do
  let name := (← get).chars.takeWhile (· != '>')
  skip name.length
  let _ ← next
  match name with
  | c :: cs =>
    if isNameChar true c && cs.all (isNameChar false) &&
        !(← get).names.contains (String.ofList name) then
      modify fun rest => { rest with names := String.ofList name :: rest.names }
    else failure
  | [] => failure

/-- Flags up to a colon or a closing parenthesis, behind so many characters at most; those behind a
hyphen are switched off. -/
def flagsFrom (on : Bool) (flags : Flags) : Nat → Reader Flags
  | 0 => failure
  | left + 1 => do
    match ← peek with
    | none => failure
    | some ':' | some ')' => return flags
    | some '-' =>
      let _ ← next
      if !on || (← isAhead [':']) || (← isAhead [')']) then failure
      else flagsFrom false flags left
    | some c =>
      let _ ← next
      let flag ← Flag.ofLetter? c
      if flags.any (·.1 == flag) then failure
      else flagsFrom on (flags ++ [(flag, on)]) left

/-- The flags switch the passing over of blanks. -/
def heed (flags : Flags) : Reader Unit := modify fun rest =>
  { rest with skipsBlanks := (flags.lookup .skipsBlanks).getD rest.skipsBlanks }

/-- What a group starts with: flags for what follows, or those for what is inside. -/
inductive Front where
  | switch (flags : Flags)
  | inside (flags : Flags)

/-- The front of a group behind its parenthesis. -/
def groupFront : Reader Front := do
  blanks
  if (← isAhead ['?', '=']) || (← isAhead ['?', '!']) || (← isAhead ['?', '<', '=']) ||
      (← isAhead ['?', '<', '!']) then failure
  else if (← isAhead ['?', 'P', '<']) || (← isAhead ['?', '<']) then
    skip (if ← isAhead ['?', '<'] then 2 else 3)
    groupName
    return .inside []
  else if ← isAhead ['?'] then
    skip 1
    let flags ← flagsFrom true [] ((← get).chars.length + 1)
    if (← next) = ':' then return .inside flags
    else if flags.isEmpty then failure
    else return .switch flags
  else return .inside []

/-! ### Patterns -/

/-- The pattern can be repeated. -/
def isRepeatable : Pattern → Bool
  | .flags .. => false
  | _ => true

mutual

/-- A group behind its parenthesis, in which groups nest so many levels. -/
def group : Nat → Reader Pattern
  | 0 => failure
  | levels + 1 => do
    match ← groupFront with
    | .switch switched =>
      heed switched
      return .flags switched
    | .inside switched =>
      let outer := (← get).skipsBlanks
      heed switched
      let inner ← alternatives levels
      if (← next) != ')' then failure
      modify fun rest => { rest with skipsBlanks := outer }
      return .group switched inner

/-- Parts one after the other up to a bar, a closing parenthesis or the end. -/
def parts (before : List Pattern) : Nat → Reader Pattern
  | 0 => failure
  | levels + 1 => do
    blanks
    match ← peek with
    | none | some '|' | some ')' => return .ofParts before.reverse
    | some '(' =>
      skip 1
      let inner ← group levels
      parts (inner :: before) levels
    | some '[' =>
      let set ← bracketed
      parts (set :: before) levels
    | some '{' => failure
    | some c =>
      if ['?', '*', '+'].contains c then
        match before with
        | [] => failure
        | last :: before =>
          skip 1
          if ← isAhead ['?'] then skip 1
          if isRepeatable last then parts (.repeated last :: before) levels else failure
      else
        let a ← atom
        parts (.atom a :: before) levels

/-- Parts between bars up to a closing parenthesis or the end. -/
def alternatives : Nat → Reader Pattern
  | 0 => failure
  | levels + 1 => do
    let first ← parts [] levels
    if ← isAhead ['|'] then
      skip 1
      match ← alternatives levels with
      | .alternatives more => return .alternatives (first :: more)
      | other => return .alternatives [first, other]
    else return first

end

end Reader

/-- The pattern of a text. -/
def ofText? (text : String) : Option Pattern := do
  let chars := text.toList
  let (pattern, rest) ← Reader.alternatives (3 * chars.length + 3) ⟨chars, false, []⟩
  if rest.chars.isEmpty then some pattern else none

/-- A text is a pattern that can be matched. -/
def isPattern (text : String) : Bool := (ofText? text).any isUsable

end Questionnaire.Pattern
