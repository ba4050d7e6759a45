/-! Numerals: whole numbers in a radix, and decimal fractions with an optional exponent. -/
namespace Upkeep.Decimal

/-- The value of a digit in a radix up to sixteen; letters count in both cases. -/
def digit? (radix : Nat) (c : Char) : Option Nat :=
  let value :=
    if '0' ≤ c && c ≤ '9' then some (c.toNat - '0'.toNat)
    else if 'a' ≤ c && c ≤ 'f' then some (c.toNat - 'a'.toNat + 10)
    else if 'A' ≤ c && c ≤ 'F' then some (c.toNat - 'A'.toNat + 10)
    else none
  value.filter (· < radix)

/-- The value of a run of digits, or nothing when a character is no digit. -/
def digits? (radix : Nat) (s : List Char) : Option Nat :=
  s.foldlM (fun n c => (digit? radix c).map (n * radix + ·)) 0

/-- The value of a numeral, which has at least one digit. -/
def numeral? (radix : Nat) (s : List Char) : Option Nat :=
  if s.isEmpty then none else digits? radix s

/-- The whole number that a text is; a plus sign may stand in front. -/
def unsigned? : List Char → Option Nat
  | '+' :: rest => numeral? 10 rest
  | s => numeral? 10 s

/-- A decimal numeral `negative? - : digits * 10 ^ exponent`. -/
structure Fraction where
  /-- Whether a minus sign stands in front. -/
  negative : Bool
  /-- All digits before and after the point. -/
  digits : Nat
  /-- The power of ten that multiplies the digits. -/
  exponent : Int
  deriving DecidableEq, Repr

/-- A sign and the rest of a numeral. -/
def takeSign : List Char → Bool × List Char
  | '-' :: rest => (true, rest)
  | '+' :: rest => (false, rest)
  | s => (false, s)

/-- The exponent that ends a numeral: nothing, or `e` with an optional sign and digits. -/
def exponent? : List Char → Option Int
  | [] => some 0
  | c :: rest =>
    if c = 'e' || c = 'E' then
      let (negative, digits) := takeSign rest
      (numeral? 10 digits).map fun (n : Nat) => if negative then -(n : Int) else (n : Int)
    else none

/-- Reads a decimal numeral: an optional sign, digits with at most one point among them, at
least one digit in all, and an optional exponent. -/
def fraction? (s : List Char) : Option Fraction :=
  let (negative, s) := takeSign s
  let whole := s.takeWhile Char.isDigit
  let rest := s.dropWhile Char.isDigit
  let (part, rest) :=
    match rest with
    | '.' :: rest => (rest.takeWhile Char.isDigit, rest.dropWhile Char.isDigit)
    | rest => ([], rest)
  match numeral? 10 (whole ++ part), exponent? rest with
  | some digits, some exponent => some ⟨negative, digits, exponent - part.length⟩
  | _, _ => none

end Upkeep.Decimal
