import Upkeep.Decimal.Numeral

/-! JSON values and how they are written. A text may hold an escape for half a character, in which
case it is no text at all; a number is kept as it is written. -/
namespace Upkeep.Json

/-- A JSON value. -/
inductive Value where
  | null
  | bool (value : Bool)
  | number (numeral : String)
  | text (value : Option String)
  | array (items : List Value)
  | object (entries : List (Option String × Value))
  deriving Repr, Inhabited

namespace Value

/-- What the fields of a name hold, among the entries of an object. -/
def fieldsNamed (entries : List (Option String × Value)) (name : String) : List Value :=
  (entries.filter fun entry => entry.1 == some name).map (·.2)

end Value

/-! ## Texts

They stand between double quotes, with escapes for quotes, backslashes and control
characters. Four hexadecimal digits give a character of the basic plane, or half of one beyond
it; the halves of a character stand next to each other. -/

/-- A part of a text: a character, or what four hexadecimal digits give. -/
inductive Piece where
  | character (c : Char)
  | unit (n : Nat)
  deriving DecidableEq, Repr

/-- The character that a letter after a backslash stands for. -/
def escape? (c : Char) : Option Char :=
  match c with
  | '"' => some '"'
  | '\\' => some '\\'
  | '/' => some '/'
  | 'b' => some '\x08'
  | 'f' => some '\x0c'
  | 'n' => some '\n'
  | 'r' => some '\r'
  | 't' => some '\t'
  | _ => none

/-- The parts of a text whose opening quote has been read, and what follows its closing quote. -/
def pieces? : List Char → Option (List Piece × List Char)
  | [] => none
  | '"' :: rest => some ([], rest)
  | '\\' :: 'u' :: a :: b :: c :: d :: rest => do
    let n ← Decimal.numeral? 16 [a, b, c, d]
    let (pieces, rest) ← pieces? rest
    return (.unit n :: pieces, rest)
  | '\\' :: c :: rest => do
    let c ← escape? c
    let (pieces, rest) ← pieces? rest
    return (.character c :: pieces, rest)
  | c :: rest => do
    if c.toNat < 0x20 then none
    let (pieces, rest) ← pieces? rest
    return (.character c :: pieces, rest)

/-- Whether a unit is the first half of a character. -/
def isFirstHalf (n : Nat) : Bool :=
  0xD800 ≤ n && n < 0xDC00

/-- Whether a unit is the second half of a character. -/
def isSecondHalf (n : Nat) : Bool :=
  0xDC00 ≤ n && n < 0xE000

/-- The characters of some parts, unless half of one is missing. -/
def joined? : List Piece → Option (List Char)
  | [] => some []
  | .character c :: rest => (joined? rest).map (c :: ·)
  | [.unit n] => if isFirstHalf n || isSecondHalf n then none else some [Char.ofNat n]
  | .unit n :: .unit m :: rest =>
    if isFirstHalf n then
      if isSecondHalf m then
        (joined? rest).map (Char.ofNat (0x10000 + (n - 0xD800) * 0x400 + (m - 0xDC00)) :: ·)
      else none
    else if isSecondHalf n then none
    else (joined? (.unit m :: rest)).map (Char.ofNat n :: ·)
  | .unit n :: .character c :: rest =>
    if isFirstHalf n || isSecondHalf n then none
    else (joined? rest).map (Char.ofNat n :: c :: ·)

/-- A text whose opening quote has been read, and what follows it. -/
def text? (s : List Char) : Option (Option String × List Char) :=
  (pieces? s).map fun (pieces, rest) => ((joined? pieces).map String.ofList, rest)

/-- A character inside quotes. -/
def quotedCharacter (c : Char) : List Char :=
  match c with
  | '"' => ['\\', '"']
  | '\\' => ['\\', '\\']
  | '\x08' => ['\\', 'b']
  | '\x0c' => ['\\', 'f']
  | '\n' => ['\\', 'n']
  | '\r' => ['\\', 'r']
  | '\t' => ['\\', 't']
  | c =>
    if c.toNat < 0x20 then
      ['\\', 'u', '0', '0', Nat.digitChar (c.toNat / 16), Nat.digitChar (c.toNat % 16)]
    else [c]

/-- A text in quotes. What is no text is written as the half of a character that makes it none. -/
def quoted : Option String → List Char
  | some s => '"' :: s.toList.flatMap quotedCharacter ++ ['"']
  | none => ['"', '\\', 'u', 'd', '8', '0', '0', '"']

/-! ## Printing

One item or entry stands on each line, moved in by two blanks for each level. -/

/-- The start of a line inside `depth` collections. -/
def lineStart (depth : Nat) : List Char :=
  '\n' :: List.replicate (2 * depth) ' '

mutual

/-- A value inside `depth` collections. -/
def written (depth : Nat) : Value → List Char
  | .null => ['n', 'u', 'l', 'l']
  | .bool true => ['t', 'r', 'u', 'e']
  | .bool false => ['f', 'a', 'l', 's', 'e']
  | .number numeral => numeral.toList
  | .text text => quoted text
  | .array [] => ['[', ']']
  | .array (item :: items) =>
    '[' :: lineStart (depth + 1) ++ written (depth + 1) item ++ writtenItems (depth + 1) items ++
      lineStart depth ++ [']']
  | .object [] => ['\x7b', '\x7d']
  | .object ((name, value) :: entries) =>
    '\x7b' :: lineStart (depth + 1) ++ quoted name ++ [':', ' '] ++ written (depth + 1) value ++
      writtenEntries (depth + 1) entries ++ lineStart depth ++ ['\x7d']

/-- The items of an array after its first. -/
def writtenItems (depth : Nat) : List Value → List Char
  | [] => []
  | item :: items => ',' :: lineStart depth ++ written depth item ++ writtenItems depth items

/-- The entries of an object after its first. -/
def writtenEntries (depth : Nat) : List (Option String × Value) → List Char
  | [] => []
  | (name, value) :: entries =>
    ',' :: lineStart depth ++ quoted name ++ [':', ' '] ++ written depth value ++
      writtenEntries depth entries

end

/-- The text of a value, without a line feed at its end. -/
def Value.print (value : Value) : String :=
  String.ofList (written 0 value)

end Upkeep.Json
