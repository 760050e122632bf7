import Questionnaire.Number.Literal

/-! # Numbers in typed text

What people and stores write as numbers. An integer is a run of ASCII digits behind an optional sign
(`readInteger?`). A real number may have a point with digits on either side and an exponent, or
be one of the words for infinity and for not being a number, in any case (`readReal?`). Its value is
rounded once, and what is beyond the largest double is infinite. -/

namespace Questionnaire.Number

/-- Whether a minus sign stands in front, and the text behind the sign. -/
def takeSign : List Char → Bool × List Char
  | '-' :: cs => (true, cs)
  | '+' :: cs => (false, cs)
  | cs => (false, cs)

/-- The natural number of a text of digits, at least one. -/
def readNat? (cs : List Char) : Option Nat :=
  if !cs.isEmpty && cs.all Char.isDigit then some (ofDigits cs) else none

/-- The integer of a text if it lies between two bounds. -/
def readInteger? (low high : Int) (cs : List Char) : Option Int := do
  let (negative, digits) := takeSign cs
  let n ← readNat? digits
  let value : Int := if negative then -(n : Int) else n
  if low ≤ value ∧ value ≤ high then some value else none

/-- The signed 64-bit integer of a text. -/
def readInt64? (s : String) : Option Int := readInteger? (-(1 <<< 63)) (1 <<< 63 - 1) s.toList

/-- The unsigned 64-bit integer of a text, which a minus sign never precedes. -/
def readWord? (s : String) : Option Nat :=
  if s.toList.head? = some '-' then none
  else (readInteger? 0 maxWord s.toList).map Int.toNat

/-! ### Real numbers -/

/-- The words for values that are no finite numbers, in lower case. -/
def readSpecial? (negative : Bool) (cs : List Char) : Option Extended :=
  let word := String.ofList (cs.map Char.toLower)
  if word = "inf" ∨ word = "infinity" then some (.infinite negative)
  else if word = "nan" then some .notANumber
  else none

/-- The double nearest to a decimal with a sign, or an infinity. -/
def realOfDecimal (negative : Bool) (d : Decimal) : Extended :=
  match Binary64.ofDecimal? negative d.digits d.exponent with
  | some x => .finite x
  | none => .infinite negative

/-- A decimal without sign and exponent: digits around an optional point, at least one. -/
def readPlain? (cs : List Char) : Option (Decimal × List Char) :=
  let (whole, rest) := Literal.spanDigits cs
  let (decimals, rest) := match rest with
    | '.' :: rest => Literal.spanDigits rest
    | rest => ([], rest)
  if whole.isEmpty && decimals.isEmpty then none
  else some (⟨ofDigits (whole ++ decimals), -decimals.length⟩, rest)

/-- The exponent that makes up the rest of a text; nothing stands for zero. -/
def readExponent? : List Char → Option Int
  | [] => some 0
  | c :: cs =>
    if c = 'e' ∨ c = 'E' then
      let (negative, digits) := takeSign cs
      (readNat? digits).map fun n => if negative then -(n : Int) else n
    else none

/-- The value of a text that writes a real number. -/
def readReal? (s : String) : Option Extended :=
  let (negative, cs) := takeSign s.toList
  let plain := do
    let (d, rest) ← readPlain? cs
    let exponent ← readExponent? rest
    return realOfDecimal negative ⟨d.digits, d.exponent + exponent⟩
  plain <|> readSpecial? negative cs

/-- The number of a text: an integer where it fits, else a finite double. -/
def readNumber? (s : String) : Option Number :=
  match readInt64? s with
  | some n => ofInt? n
  | none =>
    match readReal? s with
    | some (.finite x) => some (.double x)
    | _ => none

end Questionnaire.Number
