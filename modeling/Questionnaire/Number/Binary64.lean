/-! # Finite doubles, as exact numbers

A finite double is a sign, a mantissa and a power of two, kept in the one form that the format
stores: at most 53 bits of mantissa, and all 53 of them unless the exponent is already the least
one. Every operation is exact arithmetic on natural numbers followed by one rounding to the nearest
double, a half going to the even mantissa (`ofRatio?`). A result beyond the largest double has no
value here: the operations answer `none`, and only `Extended` names the infinities and the
not-a-number value, which some encodings can carry. -/

namespace Questionnaire.Number

/-- The pairs of mantissa and exponent that the format stores. -/
abbrev Canonical (mantissa : Nat) (exponent : Int) : Prop :=
  mantissa < 1 <<< 53 ∧ -1074 ≤ exponent ∧ exponent ≤ 971 ∧
    (1 <<< 52 ≤ mantissa ∨ exponent = -1074)

/-- The double `± mantissa · 2 ^ exponent`; zero has both signs. -/
structure Binary64 where
  negative : Bool
  mantissa : Nat
  exponent : Int
  canonical : Canonical mantissa exponent
deriving DecidableEq

/-- A value that a floating-point encoding can carry. -/
inductive Extended where
  | finite (value : Binary64)
  | infinite (negative : Bool)
  | notANumber
deriving DecidableEq

namespace Binary64

/-- Zero with the given sign. -/
def zero (negative : Bool) : Binary64 := ⟨negative, 0, -1074, by decide⟩

instance : Inhabited Binary64 := ⟨zero false⟩

/-- The double with this mantissa and exponent, if they are a canonical pair. -/
def ofParts? (negative : Bool) (mantissa : Nat) (exponent : Int) : Option Binary64 :=
  if h : Canonical mantissa exponent then some ⟨negative, mantissa, exponent, h⟩ else none

/-! ### Rounding -/

/-- The quotient to the nearest whole number, a half going to the even one. -/
def divideToEven (num den : Nat) : Nat :=
  let q := num / den
  let r := num % den
  if den < 2 * r ∨ (2 * r = den ∧ q % 2 = 1) then q + 1 else q

/-- The quotient `num / den` in units of `2 ^ exponent`, as a fraction of whole numbers. -/
def inUnits (num den : Nat) (exponent : Int) : Nat × Nat :=
  (num <<< (-exponent).toNat, den <<< exponent.toNat)

/-- The exponent at which `num / den` has 53 bits before the point, or the least one. -/
def unitExponent (num den : Nat) : Int :=
  let guess : Int := max ((Nat.log2 num : Int) - Nat.log2 den - 52) (-1074)
  let (n, d) := inUnits num den guess
  if n / d < 1 <<< 52 ∧ -1074 < guess then guess - 1 else guess

/-- The double nearest to `± num / den`; none beyond the largest one. -/
def ofRatio? (negative : Bool) (num den : Nat) : Option Binary64 :=
  if num = 0 then some (zero negative) else
    let exponent := unitExponent num den
    let (n, d) := inUnits num den exponent
    let mantissa := divideToEven n d
    if mantissa = 1 <<< 53 then ofParts? negative (1 <<< 52) (exponent + 1)
    else ofParts? negative mantissa exponent

/-- The double nearest to `± mantissa · 2 ^ exponent`. -/
def ofScaled? (negative : Bool) (mantissa : Nat) (exponent : Int) : Option Binary64 :=
  ofRatio? negative (mantissa <<< exponent.toNat) (1 <<< (-exponent).toNat)

/-- The double nearest to a natural number. -/
def ofNat? (negative : Bool) (n : Nat) : Option Binary64 := ofRatio? negative n 1

/-- Powers of ten beyond this one, up or down, are outside the range of the format. -/
def decimalReach : Nat := 1200

/-- The double nearest to `± digits · 10 ^ exponent`. Numbers far outside the range of the format
are told by the count of their digits, without writing out the power of ten. -/
def ofDecimal? (negative : Bool) (digits : Nat) (exponent : Int) : Option Binary64 :=
  if digits = 0 then some (zero negative)
  else
    let magnitude : Int := exponent + Nat.log2 digits / 4
    if decimalReach < magnitude then none
    else if exponent + Nat.log2 digits < -decimalReach then some (zero negative)
    else ofRatio? negative (digits * Nat.pow 10 exponent.toNat) (Nat.pow 10 (-exponent).toNat)

/-! ### Arithmetic and parts -/

/-- The value is a zero of either sign. -/
def isZero (x : Binary64) : Bool := x.mantissa == 0

/-- The product, rounded; none when it overflows. -/
def mul? (x y : Binary64) : Option Binary64 :=
  ofScaled? (x.negative != y.negative) (x.mantissa * y.mantissa) (x.exponent + y.exponent)

/-- The quotient by a nonzero double, rounded; none when it overflows. -/
def div? (x y : Binary64) : Option Binary64 :=
  let exponent := x.exponent - y.exponent
  ofRatio? (x.negative != y.negative) (x.mantissa <<< exponent.toNat)
    (y.mantissa <<< (-exponent).toNat)

/-- The value has no fraction. -/
def isIntegral (x : Binary64) : Bool :=
  x.mantissa % 1 <<< (-x.exponent).toNat == 0

/-- The size of the whole part. -/
def wholePart (x : Binary64) : Nat :=
  x.mantissa <<< x.exponent.toNat >>> (-x.exponent).toNat

/-- The whole part with its sign. -/
def toInt (x : Binary64) : Int :=
  if x.negative then -(x.wholePart : Int) else x.wholePart

end Binary64

/-! ### Stored bits -/

/-- The 64-bit pattern of a double: sign, exponent field and fraction. -/
def Binary64.toBits (x : Binary64) : Nat :=
  (if x.negative then 1 <<< 63 else 0) +
    if x.mantissa < 1 <<< 52 then x.mantissa
    else (x.exponent + 1075).toNat <<< 52 + (x.mantissa - 1 <<< 52)

/-- The value of a stored pattern with `fraction` bits of fraction and `width` bits of exponent. -/
def Extended.ofFields (width fraction pattern : Nat) : Extended :=
  let negative := pattern >>> (width + fraction) % 2 == 1
  let stored := pattern >>> fraction % 1 <<< width
  let bits := pattern % 1 <<< fraction
  let bias : Int := 1 <<< (width - 1) - 1
  if stored = 1 <<< width - 1 then
    if bits = 0 then .infinite negative else .notANumber
  else
    let scaled :=
      if stored = 0 then Binary64.ofScaled? negative bits (1 - bias - fraction)
      else Binary64.ofScaled? negative (1 <<< fraction + bits) (stored - bias - fraction)
    match scaled with
    | some x => .finite x
    | none => .infinite negative

/-- The value of a 16-bit pattern. -/
def Extended.ofHalf (pattern : Nat) : Extended := ofFields 5 10 pattern

/-- The value of a 32-bit pattern. -/
def Extended.ofSingle (pattern : Nat) : Extended := ofFields 8 23 pattern

/-- The value of a 64-bit pattern. -/
def Extended.ofDouble (pattern : Nat) : Extended := ofFields 11 52 pattern

end Questionnaire.Number
