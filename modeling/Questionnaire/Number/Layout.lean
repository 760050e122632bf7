import Questionnaire.Number.Shortest

/-! # How a double is written

Both layouts write the digits of `Binary64.shortest`, but they part where two decimals are equally
near: JSON text has the even one and a key the greater one. In JSON text (`jsonText`) the point is
placed positionally from `0.00001` up to below `10 ^ 16`, with at least one decimal, and otherwise
after the first digit, with a signed exponent. As a key (`keyText`) a number is always positional, a
whole number has no decimals, and whole numbers up to the bounds of the 64-bit integers are written
as those integers, the upper bound itself as the largest of them. -/

namespace Questionnaire.Number

/-- The decimal digits of a natural number. -/
def digitChars (n : Nat) : List Char := (toString n).toList

namespace Decimal

/-- The digits before and after the point, with the zeros that the place of the point needs. -/
def positional (d : Decimal) : List Char × List Char :=
  let ds := digitChars d.digits
  let before : Int := ds.length + d.exponent
  if before ≤ 0 then ([], List.replicate (-before).toNat '0' ++ ds)
  else (ds.take before.toNat ++ List.replicate (before.toNat - ds.length) '0', ds.drop before.toNat)

/-- The exponent that goes with a point after the first digit. -/
def leadingExponent (d : Decimal) : Int := (digitChars d.digits).length + d.exponent - 1

end Decimal

namespace Binary64

/-- A minus sign, or nothing. -/
def signText (x : Binary64) : String := if x.negative then "-" else ""

/-- Positional digits with a leading zero where no digit precedes the point; the decimals are left
out when there are none, unless `point` asks for one. -/
def positionalText (d : Decimal) (point : Bool) : String :=
  let (whole, decimals) := d.positional
  let whole := if whole.isEmpty then ['0'] else whole
  let decimals := if decimals.isEmpty && point then ['0'] else decimals
  String.ofList (if decimals.isEmpty then whole else whole ++ '.' :: decimals)

/-- A point after the first digit, and the exponent with its sign. -/
def scientificText (d : Decimal) : String :=
  let e := d.leadingExponent
  let mark := if e < 0 then "e-" else "e+"
  let digits := match digitChars d.digits with
    | [] => []
    | [c] => [c]
    | c :: cs => c :: '.' :: cs
  String.ofList digits ++ mark ++ toString e.natAbs

/-- The text of a double in JSON. -/
def jsonText (x : Binary64) : String :=
  let d := x.shortest .even
  x.signText ++
    if x.isZero then "0.0"
    else if -5 ≤ d.leadingExponent ∧ d.leadingExponent < 16 then positionalText d true
    else scientificText d

/-- The text of a double as a key. -/
def keyText (x : Binary64) : String :=
  if x.isIntegral ∧ -(1 <<< 63) ≤ x.toInt ∧ x.toInt ≤ 1 <<< 63 then
    toString (min x.toInt (1 <<< 63 - 1))
  else x.signText ++ positionalText (x.shortest .greater) false

end Binary64

/-- The text of any encoded double as a key. -/
def Extended.keyText : Extended → String
  | .finite x => x.keyText
  | .infinite true => "-inf"
  | .infinite false => "inf"
  | .notANumber => "NaN"

end Questionnaire.Number
