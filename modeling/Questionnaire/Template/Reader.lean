/-! # Reading templates

A `Reader` takes something off the front of a text, or nothing when the text starts otherwise. Of
two readers joined by `<|>` the second is tried where the first has failed, and what the first has
found is never given up later. Inside a tag blanks may stand in front of every mark (`mark`). -/

namespace Questionnaire.Template

/-- Reads something off the front of a text. -/
abbrev Reader (α : Type) := StateT (List Char) Option α

/-- The blanks inside a tag. -/
def isTagBlank (c : Char) : Bool := c == ' ' || c == '\t' || c == '\n' || c == '\r'

/-- The character belongs to a name. -/
def isSymbol (c : Char) : Bool :=
  c.isAlphanum || c == '_' || c == '-' || c == '$' || c == ':' || 127 < c.toNat

namespace Reader

variable {α : Type}

/-- Blanks, if there are any. -/
def blanks : Reader Unit := modify (·.dropWhile isTagBlank)

/-- The characters themselves. -/
def exactly (chars : List Char) : Reader Unit := fun cs =>
  if chars.isPrefixOf cs then some ((), cs.drop chars.length) else none

/-- The characters behind any blanks. -/
def mark (chars : List Char) : Reader Unit := do blanks; exactly chars

/-- A character of a class. -/
def oneOf (isIn : Char → Bool) : Reader Char := fun
  | c :: cs => if isIn c then some (c, cs) else none
  | [] => none

/-- The characters of a class up to the first that is not in it. -/
def span (isIn : Char → Bool) : Reader (List Char) := fun cs =>
  some (cs.takeWhile isIn, cs.dropWhile isIn)

/-- The characters of a class, at least one. -/
def someOf (isIn : Char → Bool) : Reader (List Char) := do
  return (← oneOf isIn) :: (← span isIn)

/-- Whether the reader finds something. -/
def found (reader : Reader α) : Reader Bool := (do let _ ← reader; return true) <|> return false

/-- Nothing, where the reader finds nothing. -/
def notAhead (reader : Reader α) : Reader Unit := fun cs =>
  if (reader cs).isSome then none else some ((), cs)

/-- So many finds at most, one after the other. -/
def upTo (reader : Reader α) : Nat → Reader (List α)
  | 0 => return []
  | n + 1 => (do let x ← reader; return x :: (← upTo reader n)) <|> return []

/-- All finds one after the other, each of which takes a character at least. -/
def many (reader : Reader α) : Reader (List α) := fun cs => upTo reader cs.length cs

/-- All finds one after the other, at least one. -/
def atLeastOne (reader : Reader α) : Reader (List α) := do return (← reader) :: (← many reader)

/-- The find with the characters that it took. -/
def withChars (reader : Reader α) : Reader (α × List Char) := fun cs =>
  (reader cs).map fun (x, rest) => ((x, cs.take (cs.length - rest.length)), rest)

end Reader

end Questionnaire.Template
