import Questionnaire.Number.Basic

/-! # Number literals of JSON text

`Literal.scan?` splits a literal off the front of a text: a sign, whole digits without a leading
zero, decimals and an exponent. `Literal.value?` gives it its number. A literal without decimals and
exponent is an integer when it lies in the 64-bit ranges; minus zero is a double. Every other
literal is a double, computed in two roundings: the digits that fit in 64 bits are rounded to a
double, and that is multiplied or divided by the double nearest to the power of ten. A literal
beyond the largest double has no number. -/

namespace Questionnaire.Number

/-- The largest unsigned 64-bit integer. -/
def maxWord : Nat := 1 <<< 64 - 1

/-- The value of a decimal digit. -/
def digitValue (c : Char) : Nat := c.toNat - '0'.toNat

/-- The number that decimal digits write. -/
def ofDigits (ds : List Char) : Nat := ds.foldl (fun n c => 10 * n + digitValue c) 0

/-- The parts of a number literal; `decimals` is empty when there is no point. -/
structure Literal where
  negative : Bool
  whole : List Char
  decimals : List Char
  exponent : Option (Bool × List Char)
deriving DecidableEq

namespace Literal

/-! ### Splitting -/

/-- The digits at the front of a text, and what follows them. -/
def spanDigits (cs : List Char) : List Char × List Char :=
  (cs.takeWhile Char.isDigit, cs.dropWhile Char.isDigit)

/-- The whole digits; a zero stands alone. -/
def scanWhole? (cs : List Char) : Option (List Char × List Char) :=
  match spanDigits cs with
  | ([], _) => none
  | (d :: ds, rest) => if d = '0' ∧ ds ≠ [] then none else some (d :: ds, rest)

/-- The decimals behind a point, at least one; none without a point. -/
def scanDecimals? : List Char → Option (List Char × List Char)
  | '.' :: cs =>
    match spanDigits cs with
    | ([], _) => none
    | found => some found
  | cs => some ([], cs)

/-- The exponent behind its mark: whether it is negative, and its digits, at least one. -/
def scanExponent? : List Char → Option (Option (Bool × List Char) × List Char)
  | c :: cs =>
    if c = 'e' ∨ c = 'E' then
      let (negative, cs) := match cs with
        | '-' :: cs => (true, cs)
        | '+' :: cs => (false, cs)
        | cs => (false, cs)
      match spanDigits cs with
      | ([], _) => none
      | (ds, rest) => some (some (negative, ds), rest)
    else some (none, c :: cs)
  | [] => some (none, [])

/-- A literal at the front of a text, and what follows it. -/
def scan? (cs : List Char) : Option (Literal × List Char) := do
  let (negative, cs) := match cs with
    | '-' :: cs => (true, cs)
    | cs => (false, cs)
  let (whole, cs) ← scanWhole? cs
  let (decimals, cs) ← scanDecimals? cs
  let (exponent, cs) ← scanExponent? cs
  return (⟨negative, whole, decimals, exponent⟩, cs)

/-! ### The number -/

/-- The digits taken into a 64-bit significand and the power of ten that goes with it. -/
structure Significand where
  value : Nat
  exponent : Int
deriving DecidableEq

/-- The significand with one digit more, while it fits in 64 bits. -/
@[irreducible]
def Significand.push? (s : Significand) (digit : Char) : Option Nat :=
  let value := 10 * s.value + digitValue digit
  if value ≤ maxWord then some value else none

/-- Whole digits: from the first that does not fit on they only raise the exponent. -/
def Significand.takeWhole (s : Significand) : List Char → Significand
  | [] => s
  | d :: ds =>
    match s.push? d with
    | some value => takeWhole ⟨value, s.exponent⟩ ds
    | none => ⟨s.value, s.exponent + (ds.length + 1)⟩

/-- Decimals: from the first that does not fit on they are dropped. -/
def Significand.takeDecimals (s : Significand) : List Char → Significand
  | [] => s
  | d :: ds =>
    match s.push? d with
    | some value => takeDecimals ⟨value, s.exponent - 1⟩ ds
    | none => s

/-- The largest power of ten that is multiplied or divided by at once. -/
def greatestPower : Nat := 308

/-- The double nearest to `10 ^ n`. -/
def powerOfTen (n : Nat) : Binary64 := (Binary64.ofDecimal? false 1 n).getD default

/-- A significand times its power of ten, rounded step by step. -/
def Significand.scale? (s : Significand) : Option Binary64 := do
  let x ← Binary64.ofNat? false s.value
  if 0 ≤ s.exponent then
    if s.exponent ≤ greatestPower then x.mul? (powerOfTen s.exponent.toNat)
    else if x.isZero then some x
    else none
  else
    let places := (-s.exponent).toNat
    if places ≤ greatestPower then x.div? (powerOfTen places)
    else
      let y ← x.div? (powerOfTen greatestPower)
      if places ≤ 2 * greatestPower then y.div? (powerOfTen (places - greatestPower))
      else some (Binary64.zero false)

/-- The double that a significand stands for, with a sign. -/
def Significand.toNumber? (s : Significand) (negative : Bool) : Option Number :=
  s.scale?.map fun x => .double { x with negative := negative }

/-- The number of a literal, if it has one. -/
def value? (l : Literal) : Option Number :=
  let whole := Significand.takeWhole ⟨0, 0⟩ l.whole
  if l.decimals = [] ∧ l.exponent = none ∧ whole.exponent = 0 then
    let n : Int := if l.negative then -(whole.value : Int) else whole.value
    if l.negative ∧ (whole.value = 0 ∨ n < -(1 <<< 63)) then whole.toNumber? true else ofInt? n
  else
    let s := whole.takeDecimals l.decimals
    let s := match l.exponent with
      | none => s
      | some (true, ds) => ⟨s.value, s.exponent - ofDigits ds⟩
      | some (false, ds) => ⟨s.value, s.exponent + ofDigits ds⟩
    s.toNumber? l.negative

end Literal

end Questionnaire.Number
