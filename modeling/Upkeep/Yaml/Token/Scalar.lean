import Upkeep.Decimal.Numeral
import Upkeep.Yaml.Token
import Upkeep.Yaml.Value

/-! Reading scalars: plain ones, quoted ones, and the block scalars that take whole lines. Line
breaks inside plain and quoted scalars are folded: one break is a space, and of several the
first is dropped. -/
namespace Upkeep.Yaml

/-- What stands between two words of a scalar. -/
structure Gap where
  /-- Spaces and tabs on one line. -/
  blanks : List Char
  /-- The first line break. -/
  firstBreak : List Char
  /-- The other line breaks. -/
  moreBreaks : List Char
  /-- Whether a line ended. -/
  onNewLine : Bool

namespace Gap

/-- No gap at all. -/
def none : Gap :=
  ⟨[], [], [], false⟩

/-- A line that ended with an escape, so its break does not count. -/
def joined : Gap :=
  ⟨[], [], [], true⟩

/-- What the scalar holds in place of a gap. -/
def text (g : Gap) : List Char :=
  if !g.onNewLine then g.blanks
  else if g.firstBreak = ['\n'] then
    if g.moreBreaks.isEmpty then [' '] else g.moreBreaks
  else g.firstBreak ++ g.moreBreaks

/-- Takes the blanks and line breaks ahead. On a continuation line no tab may stand in the first
`indent` columns. -/
def take (indent : Nat) : Nat → Gap → Cursor → Except Fault (Gap × Cursor)
  | 0, g, c => .ok (g, c)
  | fuel + 1, g, c =>
    match c.peek with
    | some x =>
      if isSpace x then
        if g.onNewLine && c.column < indent && x == '\t' then .error .tabIndentation
        else if g.onNewLine then take indent fuel g (c.skip 1)
        else take indent fuel { g with blanks := g.blanks ++ [x] } (c.skip 1)
      else if isBreak x then
        let (kept, after) := c.takeBreak
        if g.onNewLine then take indent fuel { g with moreBreaks := g.moreBreaks ++ kept } after
        else take indent fuel ⟨[], kept, [], true⟩ after
      else .ok (g, c)
    | .none => .ok (g, c)

end Gap

namespace Scan

/-- The brackets and the comma that end a plain scalar inside a flow collection. -/
def isFlowMark (c : Char) : Bool :=
  c == ',' || c == '[' || c == ']' || c == '\x7b' || c == '\x7d'

/-- The next word of a plain scalar and what follows it. A word ends at a blank, at a colon
before a blank and, in a flow collection, at its marks. -/
def plainWord (flow : Bool) : List Char → Except Fault (List Char × List Char)
  | [] => .ok ([], [])
  | x :: rest =>
    let blankNext : Bool := match rest with
      | [] => true
      | y :: _ => isSpace y || isBreak y
    let markNext : Bool := match rest with
      | [] => false
      | y :: _ => isFlowMark y || y == '?'
    if isSpace x || isBreak x then .ok ([], x :: rest)
    else if flow && x == ':' && markNext then .error .colonBeforeBracket
    else if x == ':' && blankNext || flow && isFlowMark x then .ok ([], x :: rest)
    else (plainWord flow rest).map fun (word, after) => (x :: word, after)

/-- A plain scalar: its text reversed, the place after it, and whether a line ended there. -/
def plainFrom (flow : Bool) (indent : Nat) :
    Nat → Gap → List Char → Cursor → Except Fault (List Char × Cursor × Bool)
  | 0, gap, text, c => .ok (text, c, gap.onNewLine)
  | fuel + 1, gap, text, c => do
    if c.startsDocumentMarker || c.next '#' then return (text, c, gap.onNewLine)
    let (word, _) ← plainWord flow c.rest
    let c := c.skip word.length
    let (gap, text) := if word.isEmpty then (gap, text)
      else (Gap.none, word.reverseAux (gap.text.reverseAux text))
    match c.peek with
    | none => return (text, c, gap.onNewLine)
    | some x =>
      if !(isSpace x || isBreak x) then return (text, c, gap.onNewLine)
      let (gap, c) ← Gap.take indent (c.rest.length + 1) gap c
      if !flow && c.column < indent then return (text, c, gap.onNewLine)
      plainFrom flow indent fuel gap text c

/-- A plain scalar at a place. Its continuation lines start at column `indent` or later. -/
def plain (flow : Bool) (indent : Nat) (c : Cursor) : Except Fault (String × Cursor × Bool) :=
  (plainFrom flow indent (c.rest.length + 1) .none [] c).map fun (text, after, broke) =>
    (String.ofList text.reverse, after, broke)

/-- The next word of a single-quoted scalar; a quote inside it is written twice. -/
def singleWord : List Char → List Char × List Char
  | '\'' :: '\'' :: rest =>
    let (word, after) := singleWord rest
    ('\'' :: word, after)
  | x :: rest =>
    if x == '\'' || isSpace x || isBreak x then ([], x :: rest)
    else
      let (word, after) := singleWord rest
      (x :: word, after)
  | [] => ([], [])

/-- The character that a one-letter escape stands for. -/
def shortEscape? : Char → Option Char
  | '0' => some '\x00'
  | 'a' => some '\x07'
  | 'b' => some '\x08'
  | 't' => some '\t'
  | '\t' => some '\t'
  | 'n' => some '\n'
  | 'v' => some '\x0b'
  | 'f' => some '\x0c'
  | 'r' => some '\r'
  | 'e' => some '\x1b'
  | ' ' => some ' '
  | '"' => some '"'
  | '/' => some '/'
  | '\\' => some '\\'
  | 'N' => some '\u0085'
  | '_' => some '\u00a0'
  | 'L' => some '\u2028'
  | 'P' => some '\u2029'
  | _ => none

/-- How many hexadecimal digits an escape has. -/
def escapeWidth? : Char → Option Nat
  | 'x' => some 2
  | 'u' => some 4
  | 'U' => some 8
  | _ => none

/-- The character of a number, unless no character has it. -/
def character? (n : Nat) : Option Char :=
  if n.isValidChar then some (Char.ofNat n) else none

/-- The next word of a double-quoted scalar, and whether it ends with an escaped line break. -/
def doubleWord (s : List Char) : Except Fault (List Char × List Char × Bool) :=
  match s with
  | [] => .ok ([], [], false)
  | '\\' :: [] => .error .badEscape
  | '\\' :: x :: rest =>
    if isBreak x then .ok ([], x :: rest, true)
    else
      match shortEscape? x, escapeWidth? x with
      | some y, _ => (doubleWord rest).map fun (word, more) => (y :: word, more)
      | none, some width =>
        match Decimal.numeral? 16 (rest.take width), character? ((Decimal.numeral? 16 (rest.take width)).getD 0) with
        | some _, some y =>
          if (rest.take width).length = width then
            (doubleWord (rest.drop width)).map fun (word, more) => (y :: word, more)
          else .error .badEscape
        | _, _ => .error .badEscape
      | none, none => .error .badEscape
  | x :: rest =>
    if x == '"' || isSpace x || isBreak x then .ok ([], x :: rest, false)
    else (doubleWord rest).map fun (word, more) => (x :: word, more)
termination_by s.length
decreasing_by all_goals simp_all <;> omega

/-- The rest of a quoted scalar after its opening quote, reversed, and the place after it. -/
def quotedFrom (single : Bool) : Nat → List Char → Cursor → Except Fault (List Char × Cursor)
  | 0, _, _ => .error .unclosedQuote
  | fuel + 1, text, c => do
    if c.startsDocumentMarker || c.rest.isEmpty then .error .unclosedQuote
    else
      let (word, after, joined) ← if single then
          let (word, after) := singleWord c.rest
          .ok (word, after, false)
        else doubleWord c.rest
      let text := word.reverseAux text
      let c := c.skip (c.rest.length - after.length)
      if c.next (if single then '\'' else '"') && !joined then return (text, c.skip 1)
      let (gap, c) ← Gap.take 0 (c.rest.length + 1) (if joined then .joined else .none)
        (if joined then c.takeBreak.2 else c)
      quotedFrom single fuel (gap.text.reverseAux text) c

/-- A quoted scalar at the place of its opening quote. -/
def quoted (single : Bool) (c : Cursor) : Except Fault (String × Cursor) :=
  (quotedFrom single (c.rest.length + 1) [] (c.skip 1)).map fun (text, after) =>
    (String.ofList text.reverse, after)

/-- What becomes of the line breaks that end a block scalar. -/
inductive Chomping where
  | strip
  | clip
  | keep
  deriving DecidableEq, Repr

/-- The marks after `|` or `>`: the chomping and an explicit indentation, in either order. -/
def blockHeader (c : Cursor) : Except Fault (Chomping × Option Nat × Cursor) :=
  let chomping? (c : Cursor) : Option Chomping :=
    if c.next '+' then some .keep else if c.next '-' then some .strip else none
  let indent? (c : Cursor) : Option Nat :=
    c.peek.bind fun x => if x.isDigit then some (x.toNat - '0'.toNat) else none
  match chomping? c, indent? c with
  | some chomping, _ =>
    match indent? (c.skip 1) with
    | some 0 => .error .badBlockHeader
    | some n => .ok (chomping, some n, c.skip 2)
    | none => .ok (chomping, none, c.skip 1)
  | none, some 0 => .error .badBlockHeader
  | none, some n =>
    match chomping? (c.skip 1) with
    | some chomping => .ok (chomping, some n, c.skip 2)
    | none => .ok (.clip, some n, c.skip 1)
  | none, none => .ok (.clip, none, c)

/-- Goes past the empty lines before a line of a block scalar. Without a known indentation the
deepest column seen decides it; `least` is what the surroundings ask for. -/
def emptyLines (least : Nat) :
    Nat → Option Nat → Nat → List Char → Cursor → Except Fault (Nat × List Char × Cursor)
  | 0, indent, deepest, breaks, c => .ok (indent.getD (max deepest least), breaks, c)
  | fuel + 1, indent, deepest, breaks, c =>
    let spaces := (c.rest.takeWhile (· == ' ')).length
    let c := c.skip (match indent with
      | some n => min spaces (n - c.column)
      | none => spaces)
    let deepest := max deepest c.column
    let early : Bool := match indent with
      | some n => c.column < n
      | none => true
    if early && c.next '\t' then .error .tabIndentation
    else
      match c.peek with
      | some x =>
        if isBreak x then
          let (kept, after) := c.takeBreak
          emptyLines least fuel indent deepest (breaks ++ kept) after
        else .ok (indent.getD (max deepest least), breaks, c)
      | none => .ok (indent.getD (max deepest least), breaks, c)

/-- The state of a block scalar between two of its lines. -/
structure BlockText where
  /-- The text so far, reversed. -/
  text : List Char
  /-- The break that ended the last line. -/
  lastBreak : List Char
  /-- The empty lines after it. -/
  emptyLines : List Char
  /-- Whether the last line started with a blank. -/
  blankStart : Bool

/-- Adds the line that is ahead. In a folded scalar a single break between two lines that do not
start with blanks becomes a space. -/
def BlockText.addLine (folded : Bool) (b : BlockText) (line : List Char) : BlockText :=
  let blankStart := match line with
    | x :: _ => isSpace x
    | [] => false
  let between :=
    if folded && b.lastBreak == ['\n'] && !b.blankStart && !blankStart then
      if b.emptyLines.isEmpty then [' '] else b.emptyLines
    else b.lastBreak ++ b.emptyLines
  ⟨line.reverseAux (between.reverseAux b.text), [], [], blankStart⟩

/-- The lines of a block scalar. -/
def blockLines (folded : Bool) (indent : Nat) :
    Nat → BlockText → Cursor → Except Fault (BlockText × Cursor)
  | 0, b, c => .ok (b, c)
  | fuel + 1, b, c =>
    if c.column == indent && !c.rest.isEmpty then do
      let (line, after) := c.span (!isBreak ·)
      let (lastBreak, next) := after.takeBreak
      let (_, breaks, next) ← emptyLines 0 (next.rest.length + 1) (some indent) 0 [] next
      blockLines folded indent fuel
        { b.addLine folded line with lastBreak := lastBreak, emptyLines := breaks } next
    else .ok (b, c)

/-- A block scalar at the place of its `|` or `>`. `parent` is the indentation around it; its own
is deeper, given in its first line or found from its first line that is not empty. -/
def block (folded : Bool) (parent : Option Nat) (c : Cursor) : Except Fault (String × Cursor) := do
  let (chomping, explicit, c) ← blockHeader (c.skip 1)
  let c := (c.skipWhile isSpace).skipComment
  if !(c.rest.isEmpty || (c.peek.map isBreak).getD false) then .error .badBlockHeader
  else
    let c := c.takeBreak.2
    let least := match parent with
      | some n => n + 1
      | none => 1
    let indent := explicit.map fun n => match parent with
      | some p => p + n
      | none => n
    let (indent, breaks, c) ← emptyLines least (c.rest.length + 1) indent 0 [] c
    let (b, c) ← blockLines folded indent (c.rest.length + 1) ⟨[], [], breaks, false⟩ c
    let text := if chomping == .strip then b.text else b.lastBreak.reverseAux b.text
    let text := if chomping == .keep then b.emptyLines.reverseAux text else text
    return (String.ofList text.reverse, c)

end Scan

end Upkeep.Yaml
