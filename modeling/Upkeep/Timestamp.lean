import Upkeep.Text.Cut

/-! Points in time as texts: a date, a mark, a time of day and an offset from universal time.
Blanks may stand before numbers and marks, the fraction of a second may have any number of
digits, and a second may be the sixtieth, as a leap second is. -/
namespace Upkeep

namespace Timestamp

/-- At most `most` digits, of which there has to be at least one, and what follows them. -/
def digits? (most : Nat) (s : List Char) : Option (Nat × List Char) :=
  match (s.take most).takeWhile Char.isDigit with
  | [] => none
  | digits =>
    some (digits.foldl (fun n c => n * 10 + (c.toNat - '0'.toNat)) 0, s.drop digits.length)

/-- What follows a mark, before which blanks may stand. -/
def mark? (mark : Char) (s : List Char) : Option (List Char) :=
  match Text.trimStart s with
  | c :: rest => if c = mark then some rest else none
  | [] => none

/-- A number of at most two digits within bounds, before which blanks may stand. -/
def pair? (least most : Nat) (s : List Char) : Option (Nat × List Char) := do
  let (n, rest) ← digits? 2 (Text.trimStart s)
  if least ≤ n && n ≤ most then return (n, rest) else none

/-- A year: up to four digits, or any number of them after a sign. -/
def year? (s : List Char) : Option (Int × List Char) :=
  match Text.trimStart s with
  | '-' :: rest => (digits? rest.length rest).map fun (n, rest) => (-(n : Int), rest)
  | '+' :: rest => (digits? rest.length rest).map fun (n, rest) => ((n : Int), rest)
  | s => (digits? 4 s).map fun (n, rest) => ((n : Int), rest)

/-- Whether a year has a leap day. -/
def isLeap (year : Int) : Bool :=
  year % 4 == 0 && (year % 100 != 0 || year % 400 == 0)

/-- The number of days in a month. -/
def daysIn (year : Int) (month : Nat) : Nat :=
  if month = 2 then (if isLeap year then 29 else 28)
  else if [4, 6, 9, 11].contains month then 30
  else 31

/-- The first year that can be told. -/
def firstYear : Int := -262143

/-- The last year that can be told. -/
def lastYear : Int := 262142

/-- What follows a date. -/
def afterDate? (s : List Char) : Option (List Char) := do
  let (year, s) ← year? s
  let s ← mark? '-' s
  let (month, s) ← pair? 1 12 s
  let s ← mark? '-' s
  let (day, s) ← pair? 1 31 s
  if firstYear ≤ year && year ≤ lastYear && day ≤ daysIn year month then return s else none

/-- What follows the fraction of a second. -/
def afterFraction? : List Char → Option (List Char)
  | '.' :: rest => (digits? rest.length rest).map (·.2)
  | s => some s

/-- What follows a time of day. -/
def afterTime? (s : List Char) : Option (List Char) := do
  let (_, s) ← pair? 0 23 s
  let s ← mark? ':' s
  let (_, s) ← pair? 0 59 s
  let s ← mark? ':' s
  let (_, s) ← pair? 0 60 s
  afterFraction? s

/-- What follows the sign of an offset. -/
def afterSign? : List Char → Option (List Char)
  | c :: rest => if c = '+' || c = '-' || c = '\u2212' then some rest else none
  | [] => none

/-- What follows two digits of which the first is at most `most`. -/
def afterTwoDigits? (most : Char) : List Char → Option (List Char)
  | a :: b :: rest =>
    if a.isDigit && a ≤ most && b.isDigit then some rest else none
  | _ => none

/-- Whether two digits are an hour of the day. -/
def isHour : List Char → Bool
  | a :: b :: _ => a == '0' || a == '1' || (a == '2' && b ≤ '3')
  | _ => false

/-- What follows an offset: a zed, `UTC`, or hours and minutes after a sign. -/
def afterOffset? (s : List Char) : Option (List Char) :=
  match s with
  | 'Z' :: rest => some rest
  | 'z' :: rest => some rest
  | _ =>
    if (s.take 3).map Char.toUpper = ['U', 'T', 'C'] then some (s.drop 3)
    else do
      let s ← afterSign? s
      let rest ← afterTwoDigits? '9' s
      if isHour s then
        afterTwoDigits? '5' (rest.dropWhile fun c => c == ':' || Text.isBlank c)
      else none

/-- Whether a character may stand between date and time. -/
def isDateMark (c : Char) : Bool :=
  c == 'T' || c == 't' || c == ' '

/-- Whether some characters are a point in time. -/
def isValid (s : List Char) : Bool :=
  let rest? := do
    match ← afterDate? s with
    | [] => none
    | c :: s =>
      if isDateMark c then
        let s ← afterTime? s
        afterOffset? (Text.trimStart s)
      else none
  match rest? with
  | some rest => (Text.trimStart rest).isEmpty
  | none => false

theorem isValid_newYear : isValid "2024-01-01T00:00:00Z".toList = true := by
  decide +kernel

end Timestamp

/-- A point in time. -/
structure Timestamp where
  /-- How it is written. -/
  text : String
  /-- The text is a point in time. -/
  valid : Timestamp.isValid text.toList = true

namespace Timestamp

/-- The point in time that a text is. -/
def ofText? (text : String) : Option Timestamp :=
  if valid : isValid text.toList = true then some ⟨text, valid⟩ else none

end Timestamp

end Upkeep
