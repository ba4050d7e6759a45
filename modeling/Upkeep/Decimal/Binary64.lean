/-! Binary floating-point numbers of 64 bits, kept as their bits. A finite number is a
significand times a power of two; a decimal is turned into the nearest number, halves to the
even neighbour, in exact arithmetic on natural numbers. -/
namespace Upkeep

/-- A binary floating-point number of 64 bits: sign, eleven bits of exponent, 52 of fraction. -/
structure Binary64 where
  /-- The bits, the sign first. -/
  bits : UInt64
  deriving DecidableEq, Repr, Inhabited

namespace Binary64

/-- The bits without the sign. They grow with the absolute value. -/
def magnitude (x : Binary64) : Nat :=
  x.bits.toNat % Nat.pow 2 63

/-- Whether the sign bit is set. -/
def isNegative (x : Binary64) : Bool :=
  Nat.pow 2 63 ≤ x.bits.toNat

/-- The magnitude of the infinities; all magnitudes above it stand for no number. -/
def infiniteMagnitude : Nat :=
  0x7FF * Nat.pow 2 52

/-- The number with the given sign and magnitude. -/
def ofMagnitude (negative : Bool) (magnitude : Nat) : Binary64 :=
  ⟨UInt64.ofNat ((if negative then Nat.pow 2 63 else 0) + magnitude)⟩

/-- Positive infinity. -/
def infinity : Binary64 :=
  ofMagnitude false infiniteMagnitude

/-- Negative infinity. -/
def negativeInfinity : Binary64 :=
  ofMagnitude true infiniteMagnitude

/-- The value that is no number. -/
def notANumber : Binary64 :=
  ofMagnitude false (infiniteMagnitude + Nat.pow 2 51)

/-- Whether this is no number. -/
def isNaN (x : Binary64) : Bool :=
  infiniteMagnitude < x.magnitude

/-- Whether this is a finite number. -/
def isFinite (x : Binary64) : Bool :=
  x.magnitude < infiniteMagnitude

/-- The whole number that the power of two multiplies. -/
def significand (x : Binary64) : Nat :=
  let fraction := x.magnitude % Nat.pow 2 52
  if x.magnitude / Nat.pow 2 52 = 0 then fraction else fraction + Nat.pow 2 52

/-- The exponent of the power of two. -/
def scale (x : Binary64) : Int :=
  let field := x.magnitude / Nat.pow 2 52
  if field = 0 then -1074 else Int.ofNat field - 1075

/-- Equality as numbers: the zeros are equal, and so are any two values that are no number. -/
def sameNumber (x y : Binary64) : Bool :=
  if x.isNaN || y.isNaN then x.isNaN && y.isNaN
  else if x.magnitude = 0 && y.magnitude = 0 then true
  else x.bits == y.bits

/-- Whether one number is at most another. What is no number is at most nothing. -/
def atMost (x y : Binary64) : Bool :=
  if x.isNaN || y.isNaN then false
  else
    match x.isNegative, y.isNegative with
    | false, false => x.magnitude ≤ y.magnitude
    | true, true => y.magnitude ≤ x.magnitude
    | true, false => true
    | false, true => x.magnitude = 0 && y.magnitude = 0

/-- The quotient rounded to the nearest whole number, a half to the even one. -/
def roundedQuotient (num den : Nat) : Nat :=
  let whole := num / den
  let twice := 2 * (num % den)
  if twice < den then whole
  else if den < twice then whole + 1
  else whole + whole % 2

/-- The magnitude nearest to `num / den`. The significand gets 53 bits, or fewer where the
least exponent is reached; a carry out of it lands in the exponent, which is what rounding up
to the next power of two means. -/
def nearestMagnitude (num den : Nat) : Nat :=
  if num = 0 then 0
  else
    let bits : Int := (num.log2 : Int) - den.log2
    let below : Bool :=
      if 0 ≤ bits then num < den * Nat.pow 2 bits.toNat else num * Nat.pow 2 (-bits).toNat < den
    let exponent : Int := max (-1074) (if below then bits - 53 else bits - 52)
    let significand :=
      if 0 ≤ exponent then roundedQuotient num (den * Nat.pow 2 exponent.toNat)
      else roundedQuotient (num * Nat.pow 2 (-exponent).toNat) den
    min infiniteMagnitude ((exponent + 1074).toNat * Nat.pow 2 52 + significand)

/-- The number nearest to `digits * 10 ^ exponent`. Exponents so far out that the result is
zero or infinite are answered without building the power of ten. -/
def ofDecimal (negative : Bool) (digits : Nat) (exponent : Int) : Binary64 :=
  let places : Int := (Nat.toDigits 10 digits).length + exponent
  ofMagnitude negative <|
    if digits = 0 || places < -330 then 0
    else if 310 < places then infiniteMagnitude
    else if 0 ≤ exponent then nearestMagnitude (digits * Nat.pow 10 exponent.toNat) 1
    else nearestMagnitude digits (Nat.pow 10 (-exponent).toNat)

end Binary64

end Upkeep
