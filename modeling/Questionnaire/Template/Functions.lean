import Questionnaire.Number.Typed
import Questionnaire.Template.Basic
import Questionnaire.Text.Blank
import Questionnaire.Text.Case

/-! # The functions of templates

A function makes a value of the values handed to it (`Function.result?`), and has none for values of
another type. A block shows its body under a rule of its own. Both are known by their names
(`isKnownName`), which stand for them also where a path could. -/

namespace Questionnaire.Template

/-! ### Truth and equality of values -/

/-- The double has all bits of the mantissa, which zero and the least doubles have not. -/
def isNormal (x : Number.Binary64) : Bool := 1 <<< 52 ≤ x.mantissa

/-- The value fulfils a condition; with `counted` every number does. -/
def isTruthy (counted : Bool) : Json → Bool
  | .null => false
  | .bool b => b
  | .num (.integer n _) => counted || n != 0
  | .num (.double x) => counted || isNormal x
  | .str s => !s.isEmpty
  | .arr items => !items.isEmpty
  | .obj members => !members.isEmpty

/-- A double in units of the least positive one. -/
def inLeastUnits (x : Number.Binary64) : Int :=
  let size : Int := (x.mantissa <<< (x.exponent + 1074).toNat : Nat)
  if x.negative then -size else size

/-- Two numbers are equal and of one kind. -/
def sameNumber : Number → Number → Bool
  | .integer m _, .integer n _ => m == n
  | .double x, .double y => inLeastUnits x == inLeastUnits y
  | _, _ => false

mutual

/-- Two values are equal. -/
def sameValue : Json → Json → Bool
  | .null, .null => true
  | .bool a, .bool b => a == b
  | .num a, .num b => sameNumber a b
  | .str a, .str b => a == b
  | .arr as, .arr bs => sameItems as bs
  | .obj as, .obj bs => sameMembers as bs
  | _, _ => false

/-- Two lists have equal items. -/
def sameItems : List Json → List Json → Bool
  | [], [] => true
  | a :: as, b :: bs => sameValue a b && sameItems as bs
  | _, _ => false

/-- Two lists have equal members. -/
def sameMembers : List (String × Json) → List (String × Json) → Bool
  | [], [] => true
  | (key, a) :: as, (key', b) :: bs => key == key' && sameValue a b && sameMembers as bs
  | _, _ => false

end

/-- A number in units of the least positive double. -/
def numberInLeastUnits : Number → Int
  | .integer n _ => n * 1 <<< 1074
  | .double x => inLeastUnits x

/-- The number that a text writes as JSON does, with nothing around it. -/
def writtenNumber? (s : String) : Option Number := do
  let (literal, rest) ← Number.Literal.scan? s.toList
  if rest.isEmpty then literal.value? else none

/-- The order of two numbers. -/
def numberOrder (a b : Number) : Ordering :=
  compare (numberInLeastUnits a) (numberInLeastUnits b)

/-- The order of two values: of numbers, also with a text that writes one, of texts and of truth
values; other values have none. -/
def order? : Json → Json → Option Ordering
  | .num a, .num b => some (numberOrder a b)
  | .str a, .str b => some (compare a b)
  | .bool a, .bool b => some (compare a.toNat b.toNat)
  | .num a, .str b => (writtenNumber? b).map (numberOrder a)
  | .str a, .num b => (writtenNumber? a).map (numberOrder · b)
  | _, _ => none

/-! ### Functions -/

/-- A function of values. -/
inductive Function where
  | underscore
  | lower
  | lookup
  | length
  | equal
  | unequal
  | greater
  | greaterOrEqual
  | less
  | lessOrEqual
  | every
  | any
  | negation
  /-- Notes its arguments and shows nothing. -/
  | note
deriving DecidableEq, Repr

namespace Function

/-- The names of the levels at which something is noted. -/
def noteLevels : List String := ["error", "warn", "info", "debug", "trace"]

/-- The level at which something is noted, if it is a text, is one there is. -/
def isNoteLevel : Option Json → Bool
  | some (.str s) => noteLevels.contains (s.map Char.toLower)
  | _ => true

/-- The function of a name. -/
def ofName? (name : String) : Option Function :=
  [("underscore", underscore), ("lower", lower), ("lookup", lookup), ("len", length),
    ("eq", equal), ("ne", unequal), ("gt", greater), ("gte", greaterOrEqual), ("lt", less),
    ("lte", lessOrEqual), ("and", every), ("or", any), ("not", negation), ("log", note)].lookup
    name

/-- The function tells whether something holds, so that a block can depend on it. -/
def isCondition : Function → Bool
  | equal | unequal | greater | greaterOrEqual | less | lessOrEqual | every | any | negation => true
  | _ => false

/-- The item at an index or the member at a key; null when there is none. -/
def itemAt : Json → Json → Json
  | .arr items, index => (index.nat?.bind (items[·]?)).getD .null
  | value, .str key => value.field key
  | _, _ => .null

/-- The number of items, members or bytes. -/
def lengthOf : Json → Nat
  | .arr items => items.length
  | .obj members => members.length
  | .str s => s.utf8ByteSize
  | _ => 0

/-- The outcome for some arguments; those behind the ones that are needed do not matter. -/
def result? : Function → List Json → Option Json
  | underscore, .str s :: _ => some (.str (Text.underscored s))
  | lower, .str s :: _ => some (.str (Text.lower s))
  | lookup, value :: key :: _ => some (itemAt value key)
  | length, value :: _ => some (.ofNat (lengthOf value))
  | equal, a :: b :: _ => some (.bool (sameValue a b))
  | unequal, a :: b :: _ => some (.bool (!sameValue a b))
  | greater, a :: b :: _ => some (.bool (order? a b == some .gt))
  | greaterOrEqual, a :: b :: _ => some (.bool ((order? a b).any Ordering.isGE))
  | less, a :: b :: _ => some (.bool (order? a b == some .lt))
  | lessOrEqual, a :: b :: _ => some (.bool ((order? a b).any Ordering.isLE))
  | every, values => some (.bool (values.all (isTruthy false)))
  | any, values => some (.bool (values.any (isTruthy false)))
  | negation, value :: _ => some (.bool (!isTruthy false value))
  | note, _ => some (.str "")
  | _, _ => none

end Function

/-! ### Blocks -/

/-- When and how a block shows its body. -/
inductive BlockRule where
  | whenTrue
  | whenFalse
  | forEach
  | within
  | always
deriving DecidableEq, Repr

/-- The rule of a block's name. -/
def BlockRule.ofName? (name : String) : Option BlockRule :=
  [("if", whenTrue), ("unless", whenFalse), ("each", forEach), ("with", within),
    ("raw", always)].lookup name

/-- The name stands for a function or block, also where it would be a path. -/
def isKnownName (name : String) : Bool :=
  (Function.ofName? name).isSome || (BlockRule.ofName? name).isSome

end Questionnaire.Template
