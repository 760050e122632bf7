import Questionnaire.Template.Expression
import Questionnaire.Text.Blank

/-! # Segments of templates

`segments?` splits a template into text and tags. A backslash before an opening tag makes text of
it, and of several backslashes before one the first is taken away. Between tags with four braces at
either end, everything else is text.

Some blanks of the text are not shown (`trimSegments`). A tilde at either end of a tag takes away
all blanks of the neighbouring text. A tag that shows nothing itself and has its line for itself
takes away that line: the blanks in front of the tag, those behind it, and the line break. -/

namespace Questionnaire.Template

open Reader

/-- What a tag opens. -/
inductive Opening where
  | block (head : Head)
  | inclusion (inclusion : Inclusion)
  | decoration (head : Head)

/-- What a tag does. -/
inductive TagKind where
  | shows (node : Node)
  | comment
  | includes (inclusion : Inclusion)
  | decorates (head : Head)
  | opens (opening : Opening)
  | closes (name : String)
  /-- Begins the alternative of a block, which may have a condition of its own. -/
  | otherwise (head : Option Head)

/-- A tag and whether it trims the text on its left and right. -/
structure Tag where
  trimsLeft : Bool
  kind : TagKind
  trimsRight : Bool

/-- A piece of a template. -/
inductive Segment where
  | text (chars : List Char)
  /-- A tag, and whether it has its line for itself. -/
  | tag (tag : Tag) (alone : Bool)

/-! ### Tags -/

/-- A tilde, if there is one. -/
def tilde : Reader Bool := found (mark ['~'])

/-- A tag behind its opening braces. -/
def bracketed (kind : Reader TagKind) : Reader Tag := do
  let tag : Tag := ⟨← tilde, ← kind, ← tilde⟩
  mark ['}', '}']
  return tag

/-- A tag behind the first two of three opening braces. -/
def inThreeBraces : Reader Tag := do
  exactly ['{']
  let tag : Tag := ⟨← tilde, .shows (← shown), ← tilde⟩
  mark ['}', '}', '}']
  return tag

/-- What a tag shows between braces of its own. -/
def inBraces : Reader TagKind := do
  mark ['{']
  let node ← shown
  mark ['}']
  return .shows node

/-- The text behind the first occurrence of some characters. -/
def after? (chars : List Char) : List Char → Option (List Char)
  | [] => none
  | c :: cs =>
    if chars.isPrefixOf (c :: cs) then some ((c :: cs).drop chars.length) else after? chars cs

/-- Everything up to some characters, and these. -/
def through (chars : List Char) : Reader Unit := fun cs => (after? chars cs).map (((), ·))

/-- A comment behind its opening braces; one that starts with two hyphens ends with two. -/
def comment : Reader Tag := do
  exactly ['!']
  (do mark ['-', '-']; through ['-', '-', '}', '}']) <|> through ['}', '}']
  return ⟨false, .comment, false⟩

/-- The mark of an alternative. -/
def otherwiseMark : Reader Unit := mark ['e', 'l', 's', 'e'] <|> mark ['^']

/-- What is opened behind the mark for it. -/
def opening : Reader Opening := do
  mark ['#']
  (do mark ['*']; .decoration <$> head) <|> (do mark ['>']; .inclusion <$> inclusion) <|>
    .block <$> head

/-- A tag behind its opening braces. -/
def tag : Reader Tag :=
  bracketed (do otherwiseMark; return .otherwise none) <|>
  bracketed (do otherwiseMark; return .otherwise (some (← head))) <|>
  bracketed (.shows <$> shown) <|>
  bracketed inBraces <|>
  inThreeBraces <|>
  bracketed (do mark ['&']; .shows <$> shownName) <|>
  bracketed (.opens <$> opening) <|>
  bracketed (do mark ['/']; .closes <$> inclusionName) <|>
  comment <|>
  bracketed (do mark ['*']; .decorates <$> head) <|>
  bracketed (do mark ['>']; .includes <$> inclusion)

/-! ### Segments -/

/-- The blanks inside a line. -/
def isLineBlank (c : Char) : Bool := c == ' ' || c == '\t'

/-- The text is empty or has but blanks up to a line break. -/
def startsWithBlankLine (cs : List Char) : Bool :=
  match cs.dropWhile isLineBlank with
  | c :: _ => c == '\n' || c == '\r'
  | [] => cs.isEmpty

/-- What is known of a line up to some character: whether it has but blanks, and the blanks that it
ends with there, the last one first. -/
structure LineFront where
  isBlank : Bool
  blanks : List Char

/-- The front of a line before its first character. -/
def LineFront.start : LineFront := ⟨true, []⟩

/-- The front of a line behind a tag. -/
def LineFront.behindTag : LineFront := ⟨false, []⟩

/-- The front of a line with one more character; a line break starts another line. -/
def LineFront.push (front : LineFront) (c : Char) : LineFront :=
  if c = '\n' ∨ c = '\r' then .start
  else if isLineBlank c then { front with blanks := c :: front.blanks }
  else .behindTag

/-- What a backslash in front of some characters leaves to be shown, and what follows that: opening
braces, or all backslashes but the first in front of such. -/
def escaped? (cs : List Char) : Option (List Char × List Char) :=
  match cs.takeWhile (· == '\\'), cs.dropWhile (· == '\\') with
  | [], '{' :: '{' :: '{' :: '{' :: rest => some (['{', '{', '{', '{'], rest)
  | [], '{' :: '{' :: rest => some (['{', '{'], rest)
  | c :: more, '{' :: '{' :: rest => some (c :: more, '{' :: '{' :: rest)
  | _, _ => none

/-- The text up to four opening braces, taken from so many characters. -/
def rawText? : Nat → List Char → Option (List Char × List Char)
  | left + 1, c :: cs =>
    if ['{', '{', '{', '{'].isPrefixOf (c :: cs) then some ([], c :: cs)
    else
      let (shown, rest) := (if c = '\\' then escaped? cs else none).getD ([c], cs)
      (rawText? left rest).map fun (more, rest) => (shown ++ more, rest)
  | _, _ => none

/-- A tag with four braces at either end. -/
def inFourBraces (kind : Reader TagKind) : Reader Tag := do
  exactly ['{', '{', '{', '{']
  let tag ← bracketed kind
  exactly ['}', '}']
  return tag

/-- A tag in its line: an inclusion takes over the blanks in front of it. -/
def Segment.ofTag (tag : Tag) (front : LineFront) (rest : List Char) : Segment :=
  let alone := front.isBlank && startsWithBlankLine rest
  match tag.kind with
  | .includes inclusion =>
    let indent := if tag.trimsLeft then [] else front.blanks.reverse
    .tag { tag with kind := .includes { inclusion with indent, indentsFirst := alone } } alone
  | _ => .tag tag alone

/-- A block whose tags have four braces at either end, and whose text has no tags and starts behind
any blanks. -/
def rawBlock (front : LineFront) : Reader (List Segment) := do
  let first ← inFourBraces ((.opens ∘ .block) <$> head)
  let firstSegment := Segment.ofTag first front (← get)
  let (text, chars) ← withChars fun cs => rawText? cs.length cs
  let last ← inFourBraces do mark ['/']; .closes <$> identifier
  let lastSegment := Segment.ofTag last (chars.foldl LineFront.push .behindTag) (← get)
  return [firstSegment, .text (text.dropWhile isTagBlank), lastSegment]

/-- A tag behind its opening braces, or a block of text behind two of its four. -/
def tagOrRawBlock (front : LineFront) : Reader (List Segment) := fun cs =>
  match tag cs with
  | some (tag, rest) => some ([.ofTag tag front rest], rest)
  | none => rawBlock front ('{' :: '{' :: cs)

/-- Some text in front of segments, joined to a text that they start with. -/
def consText (chars : List Char) : List Segment → List Segment
  | .text more :: rest => .text (chars ++ more) :: rest
  | segments => .text chars :: segments

/-- The segments of a template of which so many characters are left, behind the front of a line. -/
def segmentsFrom? : Nat → LineFront → List Char → Option (List Segment)
  | _, _, [] => some []
  | 0, _, _ => none
  | left + 1, front, '{' :: '{' :: cs => do
    let (segments, rest) ← tagOrRawBlock front cs
    return segments ++ (← segmentsFrom? left .behindTag rest)
  | left + 1, front, c :: cs =>
    match if c = '\\' then escaped? cs else none with
    | some (shown, rest) => (segmentsFrom? left .behindTag rest).map (consText shown)
    | none => (segmentsFrom? left (front.push c) cs).map (consText [c])

/-- The segments of a template. -/
def segments? (cs : List Char) : Option (List Segment) := segmentsFrom? cs.length .start cs

/-! ### Trimming -/

/-- A text without its first line, which has but blanks. -/
def dropLine (cs : List Char) : List Char :=
  match cs.dropWhile isLineBlank with
  | '\r' :: '\n' :: rest => rest
  | '\n' :: rest => rest
  | rest => rest

/-- A text without the blanks that its last line ends with. -/
def dropIndent (cs : List Char) : List Char := (cs.reverse.dropWhile isLineBlank).reverse

/-- The tag shows something itself. -/
def TagKind.isShowing : TagKind → Bool
  | .shows _ => true
  | _ => false

/-- The tag is a comment. -/
def TagKind.isComment : TagKind → Bool
  | .comment => true
  | _ => false

/-- A text without the blanks that the tag behind it takes away. -/
def trimBefore (cs : List Char) : List Segment → List Char
  | .tag tag alone :: _ =>
    let cs := if tag.trimsLeft then Text.trimEnd cs else cs
    if alone && !tag.kind.isShowing then dropIndent cs else cs
  | _ => cs

/-- The segments without the blanks that their tags take away: `trims` says that the tag in front
takes all blanks, `alone` that it takes its line. A tag without text behind it hands its line on to
the next text when it shows something, and a comment hands on that all blanks are taken. -/
def trimSegments (trims alone : Bool) : List Segment → List Segment
  | [] => []
  | .text cs :: rest =>
    if trims && cs.all isTagBlank then trimSegments trims alone rest
    else
      let front := if trims then Text.trimStart cs else if alone then dropLine cs else cs
      .text (trimBefore front rest) :: trimSegments trims false rest
  | .tag tag own :: rest =>
    .tag tag own :: trimSegments (if tag.kind.isComment then trims else tag.trimsRight)
      (if tag.kind.isShowing then alone else own) rest

end Questionnaire.Template
