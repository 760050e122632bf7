/-! # Transcripts

What a program tells whoever runs it, in order. -/

namespace Questionnaire

/-- Something that a program tells. -/
inductive Output where
  /-- A text without a line break of its own. -/
  | printed (text : String)
  /-- A line about what went wrong. -/
  | complained (line : String)
  /-- A line in the log. -/
  | warned (line : String)
deriving DecidableEq, Repr

namespace Output

/-- A line of text. -/
def line (text : String) : Output := .printed (text ++ "\n")

/-- The text that is printed. -/
def printedText : Output → String
  | .printed text => text
  | _ => ""

/-- The line of a complaint. -/
def complaint? : Output → Option String
  | .complained line => some line
  | _ => none

/-- The line of a warning. -/
def warning? : Output → Option String
  | .warned line => some line
  | _ => none

end Output

end Questionnaire
