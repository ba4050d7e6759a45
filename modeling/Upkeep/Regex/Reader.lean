import Upkeep.Decimal.Numeral
import Upkeep.Regex.Basic

/-! Reading regular expressions. The expressions here hold no closing brace, so whatever needs one
is refused, counted repetitions among it. Look-around, references back, expressions that could
match half a character, and word edges other than those of ASCII are refused as well, and so is
what nests deeper than 250 levels. -/
namespace Upkeep.Regex

/-- What can be switched on and off inside an expression. -/
structure Options where
  /-- `i`: case does not matter. -/
  foldCase : Bool
  /-- `m`: lines have starts and ends. -/
  lines : Bool
  /-- `s`: the dot stands for line ends as well. -/
  dotAll : Bool
  /-- `U`: the fewest occurrences are the best unless a question mark follows. -/
  fewest : Bool
  /-- Without `u`: classes and case are those of ASCII alone. -/
  ascii : Bool
  /-- `R`: carriage returns end lines too. -/
  returns : Bool
  /-- `x`: blanks and comments count for nothing. -/
  spaced : Bool

namespace Options

/-- What holds at the start. -/
def standard : Options :=
  ⟨false, false, false, false, false, false, false⟩

/-- Switches the option of a letter. -/
def switch? (o : Options) (letter : Char) (on : Bool) : Option Options :=
  match letter with
  | 'i' => some { o with foldCase := on }
  | 'm' => some { o with lines := on }
  | 's' => some { o with dotAll := on }
  | 'U' => some { o with fewest := on }
  | 'u' => some { o with ascii := !on }
  | 'R' => some { o with returns := on }
  | 'x' => some { o with spaced := on }
  | _ => none

/-- How characters are compared. -/
def mode (o : Options) : Mode :=
  ⟨o.foldCase, o.ascii⟩

end Options

/-- The text after blanks and comments. -/
def afterBlanks (inComment : Bool) : List Char → List Char
  | [] => []
  | c :: rest =>
    if inComment then afterBlanks (c != '\n') rest
    else if Text.isBlank c then afterBlanks false rest
    else if c == '#' then afterBlanks true rest
    else c :: rest

/-- The text after what counts for nothing. -/
def Options.skip (o : Options) (s : List Char) : List Char :=
  if o.spaced then afterBlanks false s else s

/-- What a backslash and the characters after it stand for, and any other single character. -/
inductive Piece where
  /-- A character; `byte` says that two hexadecimal digits gave its number. -/
  | character (c : Char) (byte : Bool)
  | class (name : ClassName) (negated : Bool)
  | place (place : Place)

/-- Characters that mean something in an expression. -/
def isMeta (c : Char) : Bool :=
  "\\.+*?()|[]\x7b\x7d^$#&-~".toList.contains c

/-- Whether a backslash may stand before a character that stands for itself. -/
def isEscapable (c : Char) : Bool :=
  isMeta c || c.toNat < 0x80 && !c.isAlphanum && c != '<' && c != '>'

/-- Some hexadecimal digits and what follows them. -/
def hexadecimal? (o : Options) : Nat → Nat → List Char → Option (Nat × List Char)
  | 0, n, s => some (n, s)
  | _ + 1, _, [] => none
  | count + 1, n, c :: rest =>
    (Decimal.digit? 16 c).bind fun d => hexadecimal? o count (16 * n + d) (o.skip rest)

/-- The character that some hexadecimal digits give. -/
def numbered? (o : Options) (count : Nat) (s : List Char) : Option (Piece × List Char) :=
  match hexadecimal? o count 0 (o.skip s) with
  | some (n, rest) =>
    if n.isValidChar then some (.character (Char.ofNat n) (count == 2), rest) else none
  | none => none

/-- A class, unless it is one that could match half a character. -/
def class? (o : Options) (name : ClassName) (negated : Bool) (rest : List Char) :
    Option (Piece × List Char) :=
  if o.ascii && negated then none else some (.class name negated, rest)

/-- A place at the edge of words, which are only known for ASCII. -/
def edge? (o : Options) (place : Place) (rest : List Char) : Option (Piece × List Char) :=
  match rest with
  | '\x7b' :: _ => none
  | rest => if o.ascii then some (.place place, rest) else none

/-- What stands after a backslash. -/
def escape? (o : Options) : List Char → Option (Piece × List Char)
  | [] => none
  | c :: rest =>
    let plain (c : Char) := some (Piece.character c false, rest)
    if isEscapable c then plain c
    else
      match c with
      | 'x' => numbered? o 2 rest
      | 'u' => numbered? o 4 rest
      | 'U' => numbered? o 8 rest
      | 'p' | 'P' =>
        match o.skip rest with
        | [] => none
        | letter :: rest =>
          if o.ascii then none
          else (ClassName.ofLetter? letter).map fun name => (.class name (c == 'P'), o.skip rest)
      | 'd' => class? o .digit false rest
      | 'D' => class? o .digit true rest
      | 's' => class? o .blank false rest
      | 'S' => class? o .blank true rest
      | 'w' => class? o .word false rest
      | 'W' => class? o .word true rest
      | 'a' => plain '\x07'
      | 'f' => plain '\x0c'
      | 't' => plain '\t'
      | 'n' => plain '\n'
      | 'r' => plain '\r'
      | 'v' => plain '\x0b'
      | 'A' => some (.place .textStart, rest)
      | 'z' => some (.place .textEnd, rest)
      | 'b' => edge? o .wordEdge rest
      | 'B' => if o.ascii then some (.place .noWordEdge, rest) else none
      | '<' => if o.ascii then some (.place .wordStart, rest) else none
      | '>' => if o.ascii then some (.place .wordEnd, rest) else none
      | _ => none

/-- A piece inside brackets. -/
def piece? (o : Options) : List Char → Option (Piece × List Char)
  | [] => none
  | '\\' :: rest => escape? o rest
  | c :: rest => some (.character c false, rest)

/-- The character that ends or starts a range. -/
def Piece.end? (o : Options) : Piece → Option Char
  | .character c _ => if o.ascii && 0x80 ≤ c.toNat then none else some c
  | _ => none

/-- A piece as an item inside brackets. -/
def Piece.item? (o : Options) : Piece → Option CharSet
  | .class name negated => some (.named name negated)
  | p => (p.end? o).map fun c => .range c c

/-- The next character that counts. After a mark that opens a comment it is the next one inside
the comment. -/
def Options.ahead (o : Options) (s : List Char) : Option Char :=
  if o.spaced then
    match s.dropWhile Text.isBlank with
    | '#' :: rest => (rest.dropWhile Text.isBlank).head?
    | s => s.head?
  else s.head?

/-- A range or a single item inside brackets. A dash before a closing bracket or before another
dash makes no range. -/
def rangeItem? (o : Options) (s : List Char) : Option (CharSet × List Char) := do
  let (low, rest) ← piece? o s
  match o.skip rest with
  | [] => none
  | '-' :: rest =>
    if o.ahead rest == some ']' || o.ahead rest == some '-' then
      return (← low.item? o, '-' :: rest)
    else
      let (high, rest) ← piece? o (o.skip rest)
      let first ← low.end? o
      let last ← high.end? o
      if first ≤ last then return (.range first last, rest) else none
  | rest => return (← low.item? o, rest)

/-- An ASCII class between colons, after its opening bracket. -/
def posix? : List Char → Option (CharSet × List Char)
  | ':' :: rest =>
    let (negated, rest) := match rest with
      | '^' :: rest => (true, rest)
      | rest => (false, rest)
    let name := String.ofList (rest.takeWhile (· != ':'))
    match rest.dropWhile (· != ':') with
    | ':' :: ']' :: rest =>
      if ClassName.posixNames.contains name then some (.named (.posix name) negated, rest) else none
    | _ => none
  | _ => none

/-- The dashes that a bracket may start with. -/
def leadingDashes (o : Options) : Nat → List CharSet → List Char → List CharSet × List Char
  | fuel + 1, items, '-' :: rest => leadingDashes o fuel (.range '-' '-' :: items) (o.skip rest)
  | _, items, s => (items, s)

/-- The items so far and the combination before them as one set. -/
def closeItems (pending : Option (Combination × CharSet)) (items : List CharSet) : CharSet :=
  let set := CharSet.ofItems items.reverse
  match pending with
  | some (how, left) => .combined how left set
  | none => set

mutual

/-- A set after its opening bracket. A closing bracket that comes first is an item. -/
def bracket? (o : Options) : Nat → List Char → Option (CharSet × List Char)
  | 0, _ => none
  | fuel + 1, s =>
    let (negated, s) := match o.skip s with
      | '^' :: rest => (true, o.skip rest)
      | s => (false, s)
    let (items, s) := leadingDashes o (s.length + 1) [] s
    let (items, s) := match items, s with
      | [], ']' :: rest => ([CharSet.range ']' ']'], rest)
      | items, s => (items, s)
    if o.ascii && negated then none
    else (items? o fuel none items s).map fun (set, rest) => (.bracket negated set, rest)

/-- The rest of a set, given a combination that is not complete and the items after it, the latest
first. -/
def items? (o : Options) :
    Nat → Option (Combination × CharSet) → List CharSet → List Char → Option (CharSet × List Char)
  | 0, _, _, _ => none
  | fuel + 1, pending, items, s =>
    let combine (how : Combination) (rest : List Char) :=
      items? o fuel (some (how, closeItems pending items)) [] rest
    match o.skip s with
    | [] => none
    | ']' :: rest => some (closeItems pending items, rest)
    | '&' :: '&' :: rest => combine .both rest
    | '-' :: '-' :: rest => combine .without rest
    | '~' :: '~' :: rest => combine .either rest
    | '[' :: rest =>
      match posix? rest with
      | some (.named name negated, rest) =>
        if o.ascii && negated then none
        else items? o fuel pending (.named name negated :: items) rest
      | _ =>
        match bracket? o fuel rest with
        | some (set, rest) => items? o fuel pending (set :: items) rest
        | none => none
    | s =>
      match rangeItem? o s with
      | some (item, rest) => items? o fuel pending (item :: items) rest
      | none => none

end

/-- How far an expression has been read. -/
structure Reading where
  rest : List Char
  options : Options
  /-- The names that groups have so far. -/
  names : List String

/-- The name of a group and what follows it. -/
def groupName? (r : Reading) : Option Reading :=
  let name := r.rest.takeWhile (· != '>')
  let starts (c : Char) := c == '_' || Text.isAlphabetic c
  let continues (c : Char) :=
    c == '_' || c == '.' || c == '[' || c == ']' || Text.isAlphanumeric c
  match name, r.rest.dropWhile (· != '>') with
  | first :: more, '>' :: rest =>
    let text := String.ofList name
    if starts first && more.all continues && !r.names.contains text then
      some { r with rest, names := text :: r.names }
    else none
  | _, _ => none

/-- Switches options up to a colon or a closing bracket, and says whether it was the bracket. No
letter and no minus sign may occur twice, and a minus sign does not come last. -/
def switches? (on : Bool) (seen : List Char) :
    Options → List Char → Option (Options × Bool × List Char)
  | _, [] => none
  | o, c :: rest =>
    if c == ':' || c == ')' then
      if seen.head? == some '-' || c == ')' && seen.isEmpty then none else some (o, c == ')', rest)
    else if seen.contains c then none
    else if c == '-' then switches? false (c :: seen) o rest
    else (o.switch? c on).bind fun o => switches? on (c :: seen) o rest

/-- The parts so far with the last one repeated. There has to be one that is more than options. -/
def repeatLast? (times : Times) (greedy : Bool) : List Regex → Option (List Regex)
  | [] | .nothing :: _ => none
  | part :: parts => some (.repeated times greedy part :: parts)

/-- A piece as an expression, unless it is one that could match half a character. -/
def Piece.regex? (o : Options) : Piece → Option Regex
  | .character c byte =>
    if o.ascii && byte && 0x80 ≤ c.toNat then none else some (.one o.mode (.range c c))
  | .class name negated => some (.one o.mode (.named name negated))
  | .place p => some (.place p)

/-- The expression of a single character that does not stand for itself alone. -/
def symbol? (o : Options) : Char → Option Regex
  | '.' =>
    if o.ascii then none
    else some (.other (if o.dotAll then [] else if o.returns then ['\r', '\n'] else ['\n']))
  | '^' => some (.place (if o.lines then .lineStart o.returns else .textStart))
  | '$' => some (.place (if o.lines then .lineEnd o.returns else .textEnd))
  | c => (Piece.character c false).regex? o

/-- The number of occurrences that a character asks for. -/
def times? : Char → Option Times
  | '?' => some .atMostOnce
  | '*' => some .anyNumber
  | '+' => some .atLeastOnce
  | _ => none

mutual

/-- The rest of an expression up to its end or a closing bracket, given the branches so far and
the parts of the last one, the latest first. -/
def branches? : Nat → List Regex → List Regex → Reading → Option (Regex × Reading)
  | 0, _, _, _ => none
  | fuel + 1, branches, parts, r =>
    let o := r.options
    let next (part : Regex) (rest : List Char) := branches? fuel branches (part :: parts) { r with rest }
    let finished := ofBranches (ofParts parts.reverse :: branches).reverse
    match o.skip r.rest with
    | [] => some (finished, { r with rest := [] })
    | c :: rest =>
      match times? c with
      | some times => do
        let (few, rest) := match rest with
          | '?' :: rest => (true, rest)
          | rest => (false, rest)
        let parts ← repeatLast? times (few == o.fewest) parts
        branches? fuel branches parts { r with rest }
      | none =>
        match c with
        | ')' => some (finished, { r with rest := c :: rest })
        | '|' => branches? fuel (ofParts parts.reverse :: branches) [] { r with rest }
        | '(' => do
          let (part, r) ← group? fuel { r with rest := o.skip rest }
          branches? fuel branches (part :: parts) r
        | '[' => do
          let (set, rest) ← bracket? o (2 * rest.length + 2) rest
          next (.one o.mode set) rest
        | '\x7b' => none
        | '\\' => do
          let (piece, rest) ← escape? o rest
          next (← piece.regex? o) rest
        | c => do next (← symbol? o c) rest

/-- A group after its opening bracket, or options for what follows. What is switched inside a group
stays inside. -/
def group? : Nat → Reading → Option (Regex × Reading)
  | 0, _ => none
  | fuel + 1, r => do
    let outer := r.options
    let r ← match r.rest with
      | '?' :: 'P' :: '<' :: rest => (groupName? { r with rest }).map (·, false)
      | '?' :: '<' :: rest => (groupName? { r with rest }).map (·, false)
      | '?' :: rest =>
        (switches? true [] r.options rest).map fun (options, closed, rest) =>
          ({ r with rest, options }, closed)
      | _ => some (r, false)
    let (r, closed) := r
    if closed then return (.nothing, r)
    else
      let (inner, r) ← branches? fuel [] [] r
      match r.rest with
      | ')' :: rest => return (.group inner, { r with rest, options := outer })
      | _ => none

end

/-- How deep an expression may nest. -/
def depthLimit : Nat := 250

/-- Reads an expression. Each step goes forward, so one for each character, two for each group and a
last one for the end suffice. -/
def read? (s : String) : Option Regex :=
  match branches? (2 * s.toList.length + 2) [] [] ⟨s.toList, .standard, []⟩ with
  | some (regex, r) => if r.rest.isEmpty && regex.depth ≤ depthLimit then some regex else none
  | none => none

end Upkeep.Regex
