import Upkeep.Yaml.Scalar
import Upkeep.Yaml.Token

/-! Writing texts as scalars. A text with a line feed is written as a literal block, one that
would be read back as something else in single quotes, any other plainly. A style that cannot
hold the text gives way: plain to single quotes, and these and literal blocks to double quotes,
which hold everything. -/
namespace Upkeep.Yaml.Printer

/-- Characters that are written as they are. -/
def isPrintable (c : Char) : Bool :=
  let n := c.toNat
  n == 0xA || (0x20 ≤ n && n ≤ 0x7E) || (0xA0 ≤ n && n ≤ 0xD7FF) ||
    (0xE000 ≤ n && n ≤ 0xFFFD && n != 0xFEFF) || 0x10000 ≤ n

/-- Characters that a plain scalar cannot start with. -/
def isLeadingMark (c : Char) : Bool :=
  ['#', ',', '[', ']', '\x7b', '\x7d', '&', '*', '!', '|', '>', '\'', '"', '%', '@', '`'].contains c

/-- Whether a blank, a line break or the end comes next. -/
def blankAhead : List Char → Bool
  | [] => true
  | c :: _ => isSpace c || isBreak c || c == '\x00'

/-- Whether a colon before a blank or a `#` after one stands in a text. -/
def hasInnerMark : List Char → Bool
  | [] => false
  | c :: rest =>
    c == ':' && blankAhead rest || (isSpace c || isBreak c || c == '\x00') && rest.head? == some '#' ||
      hasInnerMark rest

/-- Whether a text would be taken for something else where it starts, were it written plainly. -/
def hasLeadingMark (s : List Char) : Bool :=
  s.take 3 == ['-', '-', '-'] || s.take 3 == ['.', '.', '.'] ||
    match s with
    | [] => false
    | c :: rest => isLeadingMark c || (c == '-' || c == '?' || c == ':') && blankAhead rest

/-- Whether a character from the first class is followed by one from the second. -/
def hasPair (first second : Char → Bool) : List Char → Bool
  | a :: b :: rest => first a && second b || hasPair first second (b :: rest)
  | _ => false

/-- Whether single quotes can hold a text. -/
def fitsSingle (s : List Char) : Bool :=
  s.all isPrintable && !hasPair isBreak (· == ' ') s && !hasPair (· == ' ') isBreak s

/-- Whether a text can be written plainly. -/
def fitsPlain (s : List Char) : Bool :=
  s.all isPrintable && !s.any isBreak && s.head? != some ' ' && s.getLast? != some ' ' &&
    !hasLeadingMark s && !hasInnerMark s

/-- Whether a literal block can hold a text. -/
def fitsLiteral (s : List Char) : Bool :=
  !s.isEmpty && s.all isPrintable && s.getLast? != some ' ' && !hasPair (· == ' ') isBreak s

/-- The style in which a text is written. -/
def styleOf (text : String) : Style :=
  let s := text.toList
  if s.contains '\n' then if fitsLiteral s then .literal else .doubleQuoted
  else if Scalar.readsAsText text && fitsPlain s then .plain
  else if fitsSingle s then .singleQuoted
  else .doubleQuoted

/-- So many spaces. -/
def spaces (n : Nat) : List Char :=
  List.replicate n ' '

/-- The lines of a literal block, each one that is not empty moved in. -/
def literalLines (indent : Nat) : Bool → List Char → List Char
  | _, [] => []
  | atStart, c :: rest =>
    if isBreak c then c :: literalLines indent true rest
    else (if atStart then spaces indent else []) ++ c :: literalLines indent false rest

/-- The marks after `|`: the indentation where the first line does not show it, and what
becomes of the line breaks at the end. -/
def literalHints (s : List Char) : List Char :=
  (match s with
    | c :: _ => if c == ' ' || isBreak c then ['2'] else []
    | [] => []) ++
  match s.reverse with
  | [] => ['-']
  | c :: before =>
    if !isBreak c then ['-']
    else
      match before with
      | [] => ['+']
      | d :: _ => if isBreak d then ['+'] else []

/-- The inside of single quotes. A line after a separator inside the text is moved in. -/
def singleInside (indent : Nat) : Bool → List Char → List Char
  | afterBreak, [] => if afterBreak then spaces indent else []
  | afterBreak, c :: rest =>
    if c == ' ' then c :: singleInside indent afterBreak rest
    else if isBreak c then c :: singleInside indent true rest
    else
      (if afterBreak then spaces indent else []) ++
        (if c == '\'' then [c, c] else [c]) ++ singleInside indent false rest

/-- A number in upper-case hexadecimal of a given width. -/
def hex (width n : Nat) : List Char :=
  let digits := (Nat.toDigits 16 n).map Char.toUpper
  List.replicate (width - digits.length) '0' ++ digits

/-- A character inside double quotes. -/
def doubleCharacter (c : Char) : List Char :=
  if isPrintable c && !isBreak c && c != '"' && c != '\\' then [c]
  else
    '\\' ::
      match c with
      | '\x00' => ['0']
      | '\x07' => ['a']
      | '\x08' => ['b']
      | '\t' => ['t']
      | '\n' => ['n']
      | '\x0b' => ['v']
      | '\x0c' => ['f']
      | '\r' => ['r']
      | '\x1b' => ['e']
      | '"' => ['"']
      | '\\' => ['\\']
      | '\u0085' => ['N']
      | '\u2028' => ['L']
      | '\u2029' => ['P']
      | c =>
        if c.toNat ≤ 0xFF then 'x' :: hex 2 c.toNat
        else if c.toNat ≤ 0xFFFF then 'u' :: hex 4 c.toNat
        else 'U' :: hex 8 c.toNat

/-- A text as a scalar whose further lines are moved in by `indent`. -/
def scalarText (indent : Nat) (text : String) : List Char :=
  let s := text.toList
  match styleOf text with
  | .literal | .folded => '|' :: literalHints s ++ '\n' :: literalLines indent true s
  | .plain => s
  | .singleQuoted => '\'' :: singleInside indent false s ++ ['\'']
  | .doubleQuoted => '"' :: s.flatMap doubleCharacter ++ ['"']

end Upkeep.Yaml.Printer
