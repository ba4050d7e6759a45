import Upkeep.Decimal.Numeral
import Upkeep.Decimal.Shortest
import Upkeep.Regex.Matching

/-! Conditions on a field: that it is there, or that it has a certain value. What is expected of a
value is a truth value or a number where it reads as one, and a regular expression otherwise. -/
namespace Upkeep

/-- The order of numbers, the zeros being equal. -/
def Binary64.order (x y : Binary64) : Ordering :=
  if !x.atMost y then .gt else if y.atMost x then .eq else .lt

namespace Log

/-- What is expected of the value of a field. -/
inductive Expected where
  | bool (value : Bool)
  | float (value : Binary64)
  | notANumber
  /-- A whole number of 64 bits without a sign. -/
  | natural (value : Nat)
  /-- A whole number of 64 bits with a sign. -/
  | integer (value : Int)
  /-- A regular expression, as it is written. -/
  | pattern (text : String) (regex : Regex)
  deriving Repr

namespace Expected

/-- The floating-point number that a text is: a decimal numeral, or a word in any case. -/
def float? (s : List Char) : Option Binary64 :=
  let (negative, word) := Decimal.takeSign s
  match (String.ofList word).toLower with
  | "inf" | "infinity" => some (if negative then .negativeInfinity else .infinity)
  | "nan" => some .notANumber
  | _ => (Decimal.fraction? s).map fun f => .ofDecimal f.negative f.digits f.exponent

/-- The negative number of 64 bits that a text is. -/
def negative? : List Char → Option Int
  | '-' :: digits =>
    (Decimal.numeral? 10 digits).bind fun n => if n ≤ Nat.pow 2 63 then some (-(n : Int)) else none
  | _ => none

/-- The number that a text is. -/
def number? (s : List Char) : Option Expected :=
  match (Decimal.unsigned? s).filter (· < Nat.pow 2 64) with
  | some n => some (natural n)
  | none =>
    match negative? s with
    | some n => some (integer n)
    | none => (float? s).map fun x => if x.isNaN then notANumber else float x

/-- Reads what is expected. Only a regular expression can be malformed. -/
def read? (s : String) : Option Expected :=
  match s with
  | "true" => some (bool true)
  | "false" => some (bool false)
  | s =>
    match number? s.toList with
    | some e => some e
    | none => (Regex.read? s).map (pattern s)

/-- What is expected, as it is written. -/
def text : Expected → String
  | bool value => if value then "true" else "false"
  | float value => value.positional
  | notANumber => "NaN"
  | natural value => toString value
  | integer value => toString value
  | pattern text _ => text

/-- The place of a kind among the kinds. -/
def rank : Expected → Nat
  | bool _ => 0
  | float _ => 1
  | notANumber => 2
  | natural _ => 3
  | integer _ => 4
  | pattern _ _ => 5

/-- The order of what is expected: by kind, then by value. -/
def order : Expected → Expected → Ordering
  | bool a, bool b => compare a b
  | float a, float b => a.order b
  | natural a, natural b => compare a b
  | integer a, integer b => compare a b
  | pattern a _, pattern b _ => compare a b
  | a, b => compare a.rank b.rank

/-- Whether a text is as expected. Texts are never taken for truth values or numbers. -/
def admits (e : Expected) (value : String) : Bool :=
  match e with
  | pattern _ regex => regex.admits value
  | _ => false

end Expected

/-- A condition on a field. -/
structure Condition where
  /-- The name of the field. -/
  name : String
  /-- What is expected of its value, if anything. -/
  value : Option Expected
  deriving Repr

namespace Condition

/-- Reads a condition: a name, and a value after an equals sign. What follows a second equals sign
counts for nothing. -/
def read? (s : String) : Option Condition :=
  match s.toList.splitOn '=' with
  | name :: value :: _ =>
    (Expected.read? (String.ofList value)).map fun e => ⟨String.ofList name, some e⟩
  | _ => some ⟨s, none⟩

/-- A condition as it is written. -/
def text (c : Condition) : String :=
  match c.value with
  | some e => c.name ++ "=" ++ e.text
  | none => c.name

/-- The order of conditions: those on a value come after the others, then names and values
decide. -/
def order (c d : Condition) : Ordering :=
  match c.value, d.value with
  | some a, some b => (compare c.name d.name).then (a.order b)
  | some _, none => .gt
  | none, some _ => .lt
  | none, none => compare c.name d.name

/-- Whether a condition holds for some fields. -/
def holds (c : Condition) (fields : List (String × String)) : Bool :=
  match fields.lookup c.name, c.value with
  | some text, some e => e.admits text
  | some _, none => true
  | none, _ => false

end Condition

end Log

end Upkeep
