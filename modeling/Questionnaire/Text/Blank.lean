/-! # Blanks

The blanks are the characters of the Unicode property White_Space. `trim` takes them off both ends
of a text, and `underscored` writes one underscore for every run of them. -/

namespace Questionnaire.Text

/-- The character has the Unicode property White_Space. -/
def isBlank (c : Char) : Bool :=
  let n := c.toNat
  (9 ≤ n && n ≤ 13) || n == 0x20 || n == 0x85 || n == 0xA0 || n == 0x1680 ||
    (0x2000 ≤ n && n ≤ 0x200A) || n == 0x2028 || n == 0x2029 || n == 0x202F || n == 0x205F ||
    n == 0x3000

/-- A text without the blanks at its front. -/
def trimStart (cs : List Char) : List Char := cs.dropWhile isBlank

/-- A text without the blanks at its end. -/
def trimEnd (cs : List Char) : List Char := (trimStart cs.reverse).reverse

/-- A text without the blanks at both ends. -/
def trimChars (cs : List Char) : List Char := trimEnd (trimStart cs)

/-- A string without the blanks at both ends. -/
def trim (s : String) : String := String.ofList (trimChars s.toList)

/-- The text holds no character but blanks. -/
def isAllBlank (s : String) : Bool := s.toList.all isBlank

/-- Runs of blanks, each as one underscore; `inRun` says that the run has its underscore already. -/
def underscoredChars (inRun : Bool) : List Char → List Char
  | [] => []
  | c :: cs =>
    if isBlank c then
      if inRun then underscoredChars true cs else '_' :: underscoredChars true cs
    else c :: underscoredChars false cs

/-- A string with one underscore in place of every run of blanks. -/
def underscored (s : String) : String := String.ofList (underscoredChars false s.toList)

/-- The text in pieces between the occurrences of a separator. -/
def splitChars (separator : Char) : List Char → List (List Char)
  | [] => [[]]
  | c :: cs =>
    if c = separator then [] :: splitChars separator cs
    else
      match splitChars separator cs with
      | [] => [[c]]
      | piece :: pieces => (c :: piece) :: pieces

/-- A string in pieces between the occurrences of a separator. -/
def split (separator : Char) (s : String) : List String :=
  (splitChars separator s.toList).map String.ofList

end Questionnaire.Text
