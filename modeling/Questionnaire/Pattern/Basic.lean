/-! # Patterns of values

A pattern describes texts: characters and classes of them, edges, groups, repetitions and
alternatives. Flags change how what follows is understood, up to the end of the group that they
stand in. -/

namespace Questionnaire

namespace Pattern

/-- What a flag switches. -/
inductive Flag where
  | ignoresCase
  | hasLines
  | dotTakesAll
  | swapsGreed
  | isUnicode
  | hasWideLineEnds
  | skipsBlanks
deriving DecidableEq, Repr

/-- The flag of a letter. -/
def Flag.ofLetter? (c : Char) : Option Flag :=
  [('i', ignoresCase), ('m', hasLines), ('s', dotTakesAll), ('U', swapsGreed), ('u', isUnicode),
    ('R', hasWideLineEnds), ('x', skipsBlanks)].lookup c

/-- Flags with whether they are switched on. -/
abbrev Flags := List (Flag × Bool)

/-- A character, or something else that stands at a single place. -/
inductive Atom where
  /-- A character, and whether it is written as the number of a byte. -/
  | char (c : Char) (asByte : Bool)
  | dot
  /-- The start or end of the text or of a line. -/
  | edge
  /-- The start or end of a word, or neither. -/
  | wordEdge
  /-- Digits, blanks or word characters, or all others. -/
  | kind (negated : Bool)
  /-- The characters of a property. -/
  | property
deriving DecidableEq, Repr

/-- What stands between the brackets of a class. -/
inductive CharSet where
  | empty
  | atom (atom : Atom)
  | range (first last : Atom)
  /-- A named class, or all other characters. -/
  | named (negated : Bool)
  | union (sets : List CharSet)
  /-- Two sets with a sign for what they have in common or not. -/
  | combined (left right : CharSet)
  | bracketed (negated : Bool) (set : CharSet)

end Pattern

/-- A pattern taken apart. -/
inductive Pattern where
  | flags (flags : Pattern.Flags)
  | atom (atom : Pattern.Atom)
  /-- A class in brackets. -/
  | oneOf (negated : Bool) (set : Pattern.CharSet)
  | group (flags : Pattern.Flags) (inner : Pattern)
  | repeated (inner : Pattern)
  | sequence (parts : List Pattern)
  | alternatives (parts : List Pattern)

namespace Pattern

/-- Parts one after the other; a single part stands for itself. -/
def ofParts : List Pattern → Pattern
  | [part] => part
  | parts => .sequence parts

/-- The union of some sets; a single set stands for itself. -/
def CharSet.ofItems : List CharSet → CharSet
  | [] => .empty
  | [set] => set
  | sets => .union sets

/-! ### Nesting -/

mutual

/-- The number of levels in which a set nests others. -/
def CharSet.depth : CharSet → Nat
  | .empty | .atom _ | .range _ _ | .named _ => 0
  | .union sets => CharSet.depths sets + 1
  | .combined left right => max left.depth right.depth + 1
  | .bracketed _ set => set.depth + 1

/-- The greatest depth of some sets. -/
def CharSet.depths : List CharSet → Nat
  | [] => 0
  | set :: rest => max set.depth (CharSet.depths rest)

end

mutual

/-- The number of levels in which a pattern nests others. -/
def depth : Pattern → Nat
  | .flags _ | .atom _ => 0
  | .oneOf _ set => set.depth + 1
  | .group _ inner => inner.depth + 1
  | .repeated inner => inner.depth + 1
  | .sequence parts => if parts.isEmpty then 0 else depths parts + 1
  | .alternatives parts => depths parts + 1

/-- The greatest depth of some patterns. -/
def depths : List Pattern → Nat
  | [] => 0
  | part :: rest => max part.depth (depths rest)

end

/-- The greatest depth of a pattern. -/
def maxDepth : Nat := 250

/-! ### Bytes -/

/-- The character is one of ASCII. -/
def isPlain (c : Char) : Bool := c.toNat ≤ 0x7F

/-- A text of single bytes can be taken by the atom: only by those of ASCII, and edges of words are
known only there. -/
def Atom.fits (unicode : Bool) : Atom → Bool
  | .char c asByte => unicode || !asByte || isPlain c
  | .dot | .property => unicode
  | .edge => true
  | .wordEdge => !unicode
  | .kind negated => unicode || !negated

/-- The atom can stand in a class. -/
def Atom.fitsClass (unicode : Bool) : Atom → Bool
  | .char c _ => unicode || isPlain c
  | a => a.fits unicode

mutual

/-- The set can be matched; without Unicode it takes no bytes beyond ASCII. -/
def CharSet.fits (unicode : Bool) : CharSet → Bool
  | .empty => true
  | .atom a => a.fitsClass unicode
  | .range first last => first.fitsClass unicode && last.fitsClass unicode
  | .named negated => unicode || !negated
  | .union sets => CharSet.allFit unicode sets
  | .combined left right => left.fits unicode && right.fits unicode
  | .bracketed negated set => (unicode || !negated) && set.fits unicode

/-- All sets can be matched. -/
def CharSet.allFit (unicode : Bool) : List CharSet → Bool
  | [] => true
  | set :: rest => set.fits unicode && CharSet.allFit unicode rest

end

/-- Whether the characters are those of Unicode behind some flags. -/
def unicodeBehind (unicode : Bool) (flags : Flags) : Bool := (flags.lookup .isUnicode).getD unicode

mutual

/-- Whether the characters are those of Unicode behind the pattern, if it can be matched. -/
def behind? (unicode : Bool) : Pattern → Option Bool
  | .flags switched => some (unicodeBehind unicode switched)
  | .atom a => if a.fits unicode then some unicode else none
  | .oneOf negated set =>
    if (CharSet.bracketed negated set).fits unicode then some unicode else none
  | .group switched inner => (inner.behind? (unicodeBehind unicode switched)).map fun _ => unicode
  | .repeated inner => (inner.behind? unicode).map fun _ => unicode
  | .sequence parts | .alternatives parts => behindAll? unicode parts

/-- Whether the characters are those of Unicode behind some patterns, if they can be matched. -/
def behindAll? (unicode : Bool) : List Pattern → Option Bool
  | [] => some unicode
  | part :: rest => do behindAll? (← part.behind? unicode) rest

end

/-- The pattern can be matched. -/
def isUsable (pattern : Pattern) : Bool :=
  pattern.depth ≤ maxDepth && (pattern.behind? true).isSome

end Pattern

end Questionnaire
