import Questionnaire.Number.Literal
import Questionnaire.Wire.Basic

/-! # Reading JSON text

`Wire.ofJsonText` reads one value off a text and says whether only blanks follow it. Nesting is not
limited here: how deep a value may be is for the one who keeps it. A string is first split into
pieces, and its escaped 16-bit units are joined to characters afterwards (`joinPieces?`), since a
string with a lone half of a pair can be passed over but not kept. The functions that read values
take the number of steps that they may still make, and every text is read within twice its
length. -/

namespace Questionnaire.Wire

/-- The blanks between the tokens of JSON text. -/
def isJsonBlank (c : Char) : Bool := c == ' ' || c == '\t' || c == '\n' || c == '\r'

/-- A text without the blanks at its front. -/
def skipBlanks (cs : List Char) : List Char := cs.dropWhile isJsonBlank

/-! ### Strings -/

/-- A character of a string, or one of the 16-bit units that an escape gives. -/
inductive Piece where
  | char (c : Char)
  | unit (code : Nat)
deriving DecidableEq

/-- The value of a hexadecimal digit of either case. -/
def hexValue? (c : Char) : Option Nat :=
  if '0' ≤ c ∧ c ≤ '9' then some (c.toNat - '0'.toNat)
  else if 'a' ≤ c ∧ c ≤ 'f' then some (c.toNat - 'a'.toNat + 10)
  else if 'A' ≤ c ∧ c ≤ 'F' then some (c.toNat - 'A'.toNat + 10)
  else none

/-- The number that four hexadecimal digits write. -/
def hexUnit? (a b c d : Char) : Option Nat := do
  return 4096 * (← hexValue? a) + 256 * (← hexValue? b) + 16 * (← hexValue? c) + (← hexValue? d)

/-- The character that a one-letter escape stands for. -/
def shortEscape? (c : Char) : Option Char :=
  if c = '"' ∨ c = '\\' ∨ c = '/' then some c
  else if c = 'b' then some '\x08'
  else if c = 'f' then some '\x0c'
  else if c = 'n' then some '\n'
  else if c = 'r' then some '\r'
  else if c = 't' then some '\t'
  else none

/-- The pieces of a string up to its closing quote, and what follows it. -/
def readPieces? : List Char → Option (List Piece × List Char)
  | [] => none
  | '"' :: rest => some ([], rest)
  | '\\' :: 'u' :: a :: b :: c :: d :: rest =>
    match hexUnit? a b c d with
    | some code => (readPieces? rest).map fun (pieces, rest) => (.unit code :: pieces, rest)
    | none => none
  | '\\' :: e :: rest =>
    match shortEscape? e with
    | some c => (readPieces? rest).map fun (pieces, rest) => (.char c :: pieces, rest)
    | none => none
  | c :: rest =>
    if c.toNat < 32 ∨ c = '\\' then none
    else (readPieces? rest).map fun (pieces, rest) => (.char c :: pieces, rest)

/-- The unit is the first half of a pair. -/
def isLeadUnit (code : Nat) : Bool := 0xD800 ≤ code && code < 0xDC00

/-- The unit is the second half of a pair. -/
def isTrailUnit (code : Nat) : Bool := 0xDC00 ≤ code && code < 0xE000

/-- The character of a pair of units. -/
def pairChar (lead trail : Nat) : Char :=
  Char.ofNat (0x10000 + (lead - 0xD800) * 1024 + (trail - 0xDC00))

/-- The characters of a string, if no half of a pair stands alone. -/
def joinPieces? : List Piece → Option (List Char)
  | [] => some []
  | .char c :: rest => (joinPieces? rest).map (c :: ·)
  | .unit lead :: .unit trail :: rest =>
    if isLeadUnit lead then
      if isTrailUnit trail then (joinPieces? rest).map (pairChar lead trail :: ·) else none
    else if isTrailUnit lead then none
    else (joinPieces? (.unit trail :: rest)).map (Char.ofNat lead :: ·)
  | .unit code :: rest =>
    if isLeadUnit code || isTrailUnit code then none
    else (joinPieces? rest).map (Char.ofNat code :: ·)

/-- A string behind its opening quote, and what follows it. -/
def readString (cs : List Char) : Wire × List Char :=
  match readPieces? cs with
  | none => (.broken, [])
  | some (pieces, rest) =>
    match joinPieces? pieces with
    | some chars => (.text (String.ofList chars), rest)
    | none => (.unkept, rest)

/-! ### Numbers and words -/

/-- A number, and what follows it. -/
def readNumber (cs : List Char) : Wire × List Char :=
  match Number.Literal.scan? cs with
  | none => (.broken, [])
  | some (literal, rest) => ((literal.value?.map ofNumber).getD .unkept, rest)

/-- One of the words of JSON behind its first letter, and what follows it. -/
def readWord (value : Wire) (word cs : List Char) : Wire × List Char :=
  if cs.take word.length = word then (value, cs.drop word.length) else (.broken, [])

/-! ### Values -/

mutual

/-- A value, and what follows it. -/
def readValue : Nat → List Char → Wire × List Char
  | 0, _ => (.broken, [])
  | steps + 1, cs =>
    match skipBlanks cs with
    | [] => (.broken, [])
    | c :: rest =>
      if c = '"' then readString rest
      else if c = '[' then
        match skipBlanks rest with
        | ']' :: rest => (.list [] true, rest)
        | rest =>
          let (items, closed, rest) := readItems steps rest
          (.list items closed, rest)
      else if c = '{' then
        match skipBlanks rest with
        | '}' :: rest => (.map [] true, rest)
        | rest =>
          let (entries, closed, rest) := readEntries steps rest
          (.map entries closed, rest)
      else if c = 'n' then readWord .null ['u', 'l', 'l'] rest
      else if c = 't' then readWord (.bool true) ['r', 'u', 'e'] rest
      else if c = 'f' then readWord (.bool false) ['a', 'l', 's', 'e'] rest
      else readNumber (c :: rest)

/-- The items of a list up to its closing bracket, whether it is there, and what follows. -/
def readItems : Nat → List Char → List Wire × Bool × List Char
  | 0, _ => ([], false, [])
  | steps + 1, cs =>
    let (item, rest) := readValue steps cs
    match skipBlanks rest with
    | ',' :: rest =>
      let (items, closed, rest) := readItems steps rest
      (item :: items, closed, rest)
    | ']' :: rest => ([item], true, rest)
    | _ => ([item], false, [])

/-- The entries of a map up to its closing brace, whether it is there, and what follows. The map
breaks off in front of a key that is no string. -/
def readEntries : Nat → List Char → List (Wire × Wire) × Bool × List Char
  | 0, _ => ([], false, [])
  | steps + 1, cs =>
    match skipBlanks cs with
    | '"' :: rest =>
      let (key, rest) := readString rest
      match skipBlanks rest with
      | ':' :: rest =>
        let (value, rest) := readValue steps rest
        match skipBlanks rest with
        | ',' :: rest =>
          let (entries, closed, rest) := readEntries steps rest
          ((key, value) :: entries, closed, rest)
        | '}' :: rest => ([(key, value)], true, rest)
        | _ => ([(key, value)], false, [])
      | _ => ([(key, .broken)], false, [])
    | _ => ([], false, [])

end

/-- The value that a text starts with, and whether only blanks follow it. -/
def ofJsonText (text : String) : Wire × Bool :=
  let cs := text.toList
  let (value, rest) := readValue (2 * cs.length + 2) cs
  (value, (skipBlanks rest).isEmpty)

end Questionnaire.Wire
