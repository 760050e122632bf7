import Questionnaire.Number.Layout

/-! # Numbers of documents

A number is either an integer of the 64-bit ranges, signed or not, or a finite double. The two stay
apart: `2` and `2.0` are different numbers with different texts. As a key, though, a whole double is
written as the integer that it equals (`Number.keyText`), so that both spellings name the same
thing. -/

namespace Questionnaire

/-- The integers that a number can hold as such. -/
abbrev Number.IntegerRange (n : Int) : Prop := -(1 <<< 63) ≤ n ∧ n < 1 <<< 64

/-- An integer or a double. -/
inductive Number where
  | integer (value : Int) (range : Number.IntegerRange value)
  | double (value : Number.Binary64)
deriving DecidableEq

namespace Number

/-- The integer `n` if it is in range. -/
def ofInt? (n : Int) : Option Number :=
  if h : IntegerRange n then some (.integer n h) else none

/-- The text of a number in JSON. -/
def jsonText : Number → String
  | .integer n _ => toString n
  | .double x => x.jsonText

/-- The text of a number as a key. -/
def keyText : Number → String
  | .integer n _ => toString n
  | .double x => x.keyText

end Number

end Questionnaire
