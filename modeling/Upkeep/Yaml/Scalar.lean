import Upkeep.Decimal.Numeral
import Upkeep.Decimal.Shortest
import Upkeep.Yaml.Value

/-! Scalars: which value a plain text stands for, and the texts in which numbers are written.
A plain text is null, a truth value, a whole number, a floating-point number or, failing all
of these, itself. -/
namespace Upkeep.Yaml

namespace Scalar

/-- Whether a text is one of the words for null. -/
def isNull (s : String) : Bool :=
  s == "null" || s == "Null" || s == "NULL" || s == "~"

/-- The truth value that a word stands for. -/
def bool? (s : String) : Option Bool :=
  if s == "true" || s == "True" || s == "TRUE" then some true
  else if s == "false" || s == "False" || s == "FALSE" then some false
  else none

/-- Whether a text is digits with a needless zero in front, after an optional sign. Such a text
is no number. -/
def hasNeedlessZero (s : List Char) : Bool :=
  match (Decimal.takeSign s).2 with
  | '0' :: c :: rest => (c :: rest).all Char.isDigit
  | _ => false

/-- An unsigned whole number, its radix given by a mark in front. -/
def unsigned? : List Char → Option Nat
  | '0' :: 'x' :: rest => Decimal.numeral? 16 rest
  | '0' :: 'o' :: rest => Decimal.numeral? 8 rest
  | '0' :: 'b' :: rest => Decimal.numeral? 2 rest
  | s => Decimal.numeral? 10 s

/-- The whole number that a plain text stands for, of any size. -/
def whole? (s : List Char) : Option Int :=
  if hasNeedlessZero s then none
  else
    let (negative, body) := Decimal.takeSign s
    (unsigned? body).map fun (n : Nat) => if negative then -(n : Int) else (n : Int)

/-- Whole numbers of 64 bits, signed or not. These are the ones a value can hold. -/
def fitsWord (n : Int) : Bool :=
  -(Int.pow 2 63) ≤ n && n < Int.pow 2 64

/-- Whole numbers of 128 bits, signed or not. Those that no value can hold are refused; beyond
them a numeral is read as a floating-point number. -/
def fitsDoubleWord (n : Int) : Bool :=
  -(Int.pow 2 127) ≤ n && n < Int.pow 2 128

/-- The floating-point number that a text stands for. Numerals too large for a finite number
stand for none. -/
def float? (s : List Char) : Option Binary64 :=
  match String.ofList s with
  | ".inf" | ".Inf" | ".INF" | "+.inf" | "+.Inf" | "+.INF" => some .infinity
  | "-.inf" | "-.Inf" | "-.INF" => some .negativeInfinity
  | ".nan" | ".NaN" | ".NAN" => some .notANumber
  | _ =>
    match Decimal.fraction? s with
    | some f =>
      let x := Binary64.ofDecimal f.negative f.digits f.exponent
      if x.isFinite then some x else none
    | none => none

/-- The value of a whole number, refused when 128 bits hold it but 64 do not. -/
def ofWhole? (n : Int) : Except Fault (Option Value) :=
  if fitsWord n then .ok (some (.int n))
  else if fitsDoubleWord n then .error .numberTooLarge
  else .ok none

/-- The value that a plain scalar stands for. -/
def ofPlain (text : String) : Except Fault Value :=
  if text.isEmpty || isNull text then .ok .null
  else
    match bool? text with
    | some b => .ok (.bool b)
    | none => do
      let whole ← match whole? text.toList with
        | some n => ofWhole? n
        | none => .ok none
      match whole with
      | some value => return value
      | none =>
        if hasNeedlessZero text.toList then return .text text
        match float? text.toList with
        | some x => return .float x
        | none => return .text text

/-- Whether a text, written plainly, would be read as itself. -/
def readsAsText (text : String) : Bool :=
  match ofPlain text with
  | .ok (.text s) => s == text && !hasNeedlessZero text.toList
  | _ => false

/-- The text of a floating-point number: positional for numbers of ordinary size, with a part
after the point in any case, and with an exponent otherwise. -/
def floatText (x : Binary64) : String :=
  if x.isNaN then ".nan"
  else
    let sign := if x.isNegative then "-" else ""
    if !x.isFinite then sign ++ ".inf"
    else if x.magnitude = 0 then sign ++ "0.0"
    else
      let ⟨digits, point⟩ := x.shortest
      let count : Int := digits.length
      sign ++ String.ofList (
        if count ≤ point && point ≤ 16 then
          digits ++ List.replicate (point - count).toNat '0' ++ ['.', '0']
        else if 0 < point && point ≤ 16 then
          digits.take point.toNat ++ ['.'] ++ digits.drop point.toNat
        else if -5 < point && point ≤ 0 then
          ['0', '.'] ++ List.replicate (-point).toNat '0' ++ digits
        else
          digits.take 1 ++ (if digits.length = 1 then [] else '.' :: digits.drop 1) ++
            'e' :: (toString (point - 1)).toList)

end Scalar

end Upkeep.Yaml
