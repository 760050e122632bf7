import Questionnaire.Glob.Basic

/-! # Matching globs

A name is matched by its UTF-8 bytes, so a question mark stands for one byte and brackets list
bytes: a character outside ASCII adds each of its bytes to the list, and of a range between two
characters only the last byte of the first and the first byte of the second are its ends. -/

namespace Questionnaire.Glob

/-! ### Bytes -/

/-- The UTF-8 bytes of a character. -/
def bytesOf (c : Char) : List UInt8 := (String.singleton c).toUTF8.toList

/-- The byte is one of those that a range of characters lists. -/
def inRange (range : Char × Char) (b : UInt8) : Bool :=
  let low := bytesOf range.1
  if range.1 = range.2 then low.contains b
  else
    match low.reverse, bytesOf range.2 with
    | least :: front, greatest :: rest =>
      front.contains b || (least ≤ b && b ≤ greatest) || rest.contains b
    | _, _ => false

/-- The byte is in the set between brackets. -/
def inBracket (set : Bracket) (b : UInt8) : Bool :=
  (set.ranges.any fun range => inRange range b) != set.negated

/-- A text without another in front of it. -/
def dropFront? (front : List UInt8) (bytes : List UInt8) : Option (List UInt8) :=
  if front.isPrefixOf bytes then some (bytes.drop front.length) else none

/-- The ends of a text, from the whole to the empty one. -/
def ends : List UInt8 → List (List UInt8)
  | [] => [[]]
  | b :: bytes => (b :: bytes) :: ends bytes

/-- The slash between the parts of a path. -/
def slash : UInt8 := 47

/-- The ends of a text that stand behind a slash. -/
def endsAfterSlash (bytes : List UInt8) : List (List UInt8) :=
  (ends bytes).filterMap (dropFront? [slash])

/-! ### Tokens -/

mutual

/-- Nothing is left of the token but empty groups. -/
def vanishes : GlobToken → Bool
  | .either alternatives => vanishEach alternatives
  | _ => false

/-- Nothing is left of any of the tokens. -/
def vanishAll : List GlobToken → Bool
  | [] => true
  | token :: tokens => vanishes token && vanishAll tokens

/-- Nothing is left of any of the alternatives. -/
def vanishEach : List (List GlobToken) → Bool
  | [] => true
  | tokens :: alternatives => vanishAll tokens && vanishEach alternatives

end

mutual

/-- A token matches the front of a text, and `rest` what is behind it. -/
def tokenMatches : GlobToken → (List UInt8 → Bool) → List UInt8 → Bool
  | .literal c, rest, bytes => (dropFront? (bytesOf c) bytes).any rest
  | .any, rest, bytes =>
    match bytes with
    | [] => false
    | _ :: bytes => rest bytes
  | .many, rest, bytes => (ends bytes).any rest
  | .leadingFolders, rest, bytes => rest bytes || (endsAfterSlash bytes).any rest
  | .contents, rest, bytes => (dropFront? [slash] bytes).any fun bytes => (ends bytes).any rest
  | .innerFolders, rest, bytes =>
    (dropFront? [slash] bytes).any fun bytes => rest bytes || (endsAfterSlash bytes).any rest
  | .bracket set, rest, bytes =>
    match bytes with
    | [] => false
    | b :: bytes => inBracket set b && rest bytes
  | .either alternatives, rest, bytes =>
    if vanishEach alternatives then rest bytes else anyMatch alternatives rest bytes

/-- Tokens match the front of a text, and `rest` what is behind them. -/
def allMatch : List GlobToken → (List UInt8 → Bool) → List UInt8 → Bool
  | [], rest, bytes => rest bytes
  | token :: tokens, rest, bytes => tokenMatches token (allMatch tokens rest) bytes

/-- One of the alternatives of which something is left matches the front of a text. -/
def anyMatch : List (List GlobToken) → (List UInt8 → Bool) → List UInt8 → Bool
  | [], _, _ => false
  | tokens :: alternatives, rest, bytes =>
    (!vanishAll tokens && allMatch tokens rest bytes) || anyMatch alternatives rest bytes

end

/-- The tokens of a glob match a name. -/
def isMatch (tokens : List GlobToken) (name : String) : Bool :=
  match tokens with
  | [.leadingFolders] => true
  | tokens => allMatch tokens List.isEmpty name.toUTF8.toList

end Questionnaire.Glob
