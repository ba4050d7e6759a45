import Upkeep.Decimal.Binary64

/-! The fewest decimal digits that read back as a given binary number. A decimal reads back as
the number exactly when it lies in the interval of reals that round to it. For one digit, two
digits and so on, the two points of that decimal grid around the number are tried; the first
grid with a hit wins, and of two hits the nearer, or the even one when both are as near. -/
namespace Upkeep.Binary64

/-- A positive decimal `0.d₁…dₙ × 10 ^ point`, its digits as one whole number. -/
structure Digits where
  /-- The digits, most significant first; the last one is not zero. -/
  digits : List Char
  /-- The power of ten that multiplies the fraction. -/
  point : Int
  deriving DecidableEq, Repr

/-- A fraction of natural numbers, compared by cross multiplication. -/
structure Ratio where
  num : Nat
  den : Nat

namespace Ratio

/-- `n * base ^ exponent`. -/
def scaled (n base : Nat) (exponent : Int) : Ratio :=
  if 0 ≤ exponent then ⟨n * Nat.pow base exponent.toNat, 1⟩ else ⟨n, Nat.pow base (-exponent).toNat⟩

/-- Whether the first fraction is less than the second. -/
def less (a b : Ratio) : Bool :=
  a.num * b.den < b.num * a.den

/-- The distance between two fractions. -/
def distance (a b : Ratio) : Ratio :=
  let x := a.num * b.den
  let y := b.num * a.den
  ⟨if x < y then y - x else x - y, a.den * b.den⟩

end Ratio

/-- The absolute value of a finite number. -/
def value (x : Binary64) : Ratio :=
  .scaled x.significand 2 x.scale

/-- The ends of the interval of reals that round to a number. Below a power of two the
neighbour is only half as far away. -/
def interval (x : Binary64) : Ratio × Ratio :=
  let down := if x.significand = Nat.pow 2 52 && -1074 < x.scale then 1 else 2
  (.scaled (4 * x.significand - down) 2 (x.scale - 2), .scaled (4 * x.significand + 2) 2 (x.scale - 2))

/-- Whether a decimal reads back as the number; the ends of the interval do so when the
significand is even. -/
def readsBack (x : Binary64) (decimal : Ratio) : Bool :=
  let (low, high) := x.interval
  if x.significand % 2 = 0 then !decimal.less low && !high.less decimal
  else low.less decimal && decimal.less high

/-- The power of ten just above the number. -/
def point (x : Binary64) : Int :=
  let v := x.value
  ((Nat.toDigits 10 (v.num * Nat.pow 10 400 / v.den)).length : Int) - 400

/-- The better of the two points around the number on the grid of `count` digits. -/
def onGrid (x : Binary64) (count : Nat) : Option Nat :=
  let step := x.point - count
  let at_ (n : Nat) : Ratio := .scaled n 10 step
  let v := x.value
  let below := (if 0 ≤ step then v.num / (v.den * Nat.pow 10 step.toNat)
    else v.num * Nat.pow 10 (-step).toNat / v.den)
  let above := below + 1
  match x.readsBack (at_ below), x.readsBack (at_ above) with
  | true, true =>
    let down := (at_ below).distance v
    let up := (at_ above).distance v
    if down.less up then some below
    else if up.less down then some above
    else if below % 2 = 0 then some below else some above
  | true, false => some below
  | false, true => some above
  | false, false => none

/-- The shortest digits of a finite number other than zero. Seventeen digits always suffice. -/
def shortest (x : Binary64) : Digits :=
  let found := (List.range 17).findSome? fun n => (x.onGrid (n + 1)).map fun d => (n + 1, d)
  let (count, decimal) := found.getD (17, 1)
  let text := Nat.toDigits 10 decimal
  ⟨(text.reverse.dropWhile (· == '0')).reverse, x.point + text.length - count⟩

/-- The text of a number in positional notation: with as many zeros as it takes and never an exponent. -/
def positional (x : Binary64) : String :=
  if x.isNaN then "NaN"
  else
    let sign := if x.isNegative then "-" else ""
    if !x.isFinite then sign ++ "inf"
    else if x.magnitude = 0 then sign ++ "0"
    else
      let ⟨digits, point⟩ := x.shortest
      let count : Int := digits.length
      sign ++ String.ofList (
        if count ≤ point then digits ++ List.replicate (point - count).toNat '0'
        else if 0 < point then digits.take point.toNat ++ '.' :: digits.drop point.toNat
        else '0' :: '.' :: List.replicate (-point).toNat '0' ++ digits)

end Upkeep.Binary64
