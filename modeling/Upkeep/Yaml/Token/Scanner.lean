import Upkeep.Yaml.Token.Property
import Upkeep.Yaml.Token.Scalar

/-! From characters to tokens. Indentation is turned into tokens that open and close block
collections. Whether something is a key is only known once its colon is reached, so the place
where it started is remembered, one for each level of flow collections, and the key token is
put in there. A remembered place is given up at the end of its line or after 1024 bytes;
if it is the first thing on a line of a block mapping, giving it up is an error. -/
namespace Upkeep.Yaml

/-- A place where a key may have started. -/
structure KeyPlace where
  /-- Whether it has to turn out a key. -/
  required : Bool
  /-- How many tokens came before. -/
  position : Nat
  /-- Where it stands. -/
  place : Cursor

/-- The state of a scan. -/
structure Scanner where
  /-- Where the scan is. -/
  cursor : Cursor
  /-- The tokens so far. -/
  tokens : Array Token
  /-- The key places of the flow levels, the innermost first; the last is the block level's. -/
  places : List (Option KeyPlace)
  /-- Whether a key may start here. -/
  keyAllowed : Bool
  /-- The columns of the open block collections, the innermost first. -/
  indents : List Nat

namespace Scanner

/-- The start of a scan. -/
def start (text : List Char) : Scanner :=
  ⟨.start text, #[], [none], true, []⟩

/-- Whether the scan is inside a flow collection. -/
def inFlow (s : Scanner) : Bool :=
  1 < s.places.length

/-- The column of the innermost block collection. -/
def indent? (s : Scanner) : Option Nat :=
  s.indents.head?

/-- Whether a column lies deeper than the innermost block collection. -/
def isDeeper (s : Scanner) (column : Nat) : Bool :=
  match s.indent? with
  | some n => n < column
  | none => true

/-- Adds a token. -/
def push (s : Scanner) (token : Token) : Scanner :=
  { s with tokens := s.tokens.push token }

/-- Goes to a place. -/
def moveTo (s : Scanner) (cursor : Cursor) : Scanner :=
  { s with cursor }

/-- Closes the block collections whose column lies beyond `column`; all of them for none. -/
def closeTo (column : Option Nat) (s : Scanner) : Scanner :=
  if s.inFlow then s
  else
    let closes (n : Nat) : Bool := match column with
      | some c => c < n
      | none => true
    let closed := s.indents.takeWhile closes
    { s with
      indents := s.indents.dropWhile closes
      tokens := s.tokens ++ Array.replicate closed.length Token.blockEnd }

/-- Opens a block collection at a column, with its token at a position, if that is deeper than
the innermost one. -/
def openAt (s : Scanner) (column position : Nat) (token : Token) : Scanner :=
  if !s.inFlow && s.isDeeper column then
    { s with indents := column :: s.indents, tokens := s.tokens.insertIdxIfInBounds position token }
  else s

/-- Gives up the key place of the current level. -/
def dropPlace (s : Scanner) : Except Fault Scanner :=
  match s.places with
  | some p :: outer => if p.required then .error .missingColon else .ok { s with places := none :: outer }
  | _ => .ok s

/-- Remembers that a key may start here. -/
def markPlace (s : Scanner) : Except Fault Scanner :=
  if s.keyAllowed then do
    let s ← s.dropPlace
    let required := !s.inFlow && s.indent? == some s.cursor.column
    return { s with places := some ⟨required, s.tokens.size, s.cursor⟩ :: s.places.drop 1 }
  else .ok s

/-- Gives up the key places that are too far back. -/
def dropStale (s : Scanner) : Except Fault Scanner := do
  let places ← s.places.mapM fun
    | none => .ok none
    | some p =>
      if p.place.line < s.cursor.line || p.place.index + 1024 < s.cursor.index then
        if p.required then .error .missingColon else .ok none
      else .ok (some p)
  return { s with places }

/-- Goes to the next token, past blanks, comments and line breaks. Tabs count as blanks only
where no block collection can start. A byte order mark that opens a line is passed over; it
takes up a column like any other character. -/
def skipToToken : Nat → Scanner → Scanner
  | 0, s => s
  | fuel + 1, s =>
    let c := s.cursor
    let c := if c.column == 0 && c.next '\ufeff' then c.skip 1 else c
    let tabs := s.inFlow || !s.keyAllowed
    let c := (c.skipWhile fun x => x == ' ' || tabs && x == '\t').skipComment
    match c.peek with
    | some x =>
      if isBreak x then
        skipToToken fuel { s with cursor := c.takeBreak.2, keyAllowed := s.keyAllowed || !s.inFlow }
      else s.moveTo c
    | none => s.moveTo c

/-- Ends the block collections and the pending key before a directive or a document mark. -/
def endBlocks (s : Scanner) : Except Fault Scanner := do
  let s ← (s.closeTo none).dropPlace
  return { s with keyAllowed := false }

/-- An indicator of one character that leaves a key place behind or not. -/
def indicator (s : Scanner) (token : Token) (keyAllowed : Bool) : Scanner :=
  { s with cursor := s.cursor.skip 1, tokens := s.tokens.push token, keyAllowed }

/-- Opens a block collection here for an indicator that needs one. -/
def openHere (s : Scanner) (token : Token) : Except Fault Scanner :=
  if s.inFlow then .ok s
  else if s.keyAllowed then .ok (s.openAt s.cursor.column s.tokens.size token)
  else .error .misplacedIndicator

/-- The `-` of a block sequence. -/
def scanItem (s : Scanner) : Except Fault Scanner := do
  let s ← (← s.openHere .blockSequence).dropPlace
  return s.indicator .item true

/-- The `?` before a key. -/
def scanKey (s : Scanner) : Except Fault Scanner := do
  let s ← (← s.openHere .blockMapping).dropPlace
  return s.indicator .key (!s.inFlow)

/-- The `:` before a value. A remembered place becomes the key. -/
def scanValue (s : Scanner) : Except Fault Scanner :=
  match s.places with
  | some p :: outer =>
    let s := { s with places := none :: outer, tokens := s.tokens.insertIdxIfInBounds p.position .key }
    let s := s.openAt p.place.column p.position .blockMapping
    .ok (s.indicator .value false)
  | _ => do
    let s ← s.openHere .blockMapping
    return s.indicator .value (!s.inFlow)

/-- The bracket that opens a flow collection. -/
def openFlow (s : Scanner) (token : Token) : Except Fault Scanner := do
  let s ← s.markPlace
  return { s with places := none :: s.places }.indicator token true

/-- The bracket that closes a flow collection. -/
def closeFlow (s : Scanner) (token : Token) : Except Fault Scanner := do
  let s ← s.dropPlace
  let s := if s.inFlow then { s with places := s.places.drop 1 } else s
  return s.indicator token false

/-- A node or a property of one, which may start a key. -/
def scanNode (s : Scanner) (read : Cursor → Except Fault (Token × Cursor)) : Except Fault Scanner := do
  let s ← s.markPlace
  let (token, cursor) ← read s.cursor
  return { s with cursor, tokens := s.tokens.push token, keyAllowed := false }

/-- A block scalar, after which a key may start. -/
def scanBlock (s : Scanner) (folded : Bool) : Except Fault Scanner := do
  let s ← s.dropPlace
  let (text, cursor) ← Scan.block folded s.indent? s.cursor
  return { s with
    cursor, tokens := s.tokens.push (.scalar (if folded then .folded else .literal) text), keyAllowed := true }

/-- A plain scalar. If a line ended after it, a key may start. -/
def scanPlain (s : Scanner) : Except Fault Scanner := do
  let s ← s.markPlace
  let least := match s.indent? with
    | some n => n + 1
    | none => 0
  let (text, cursor, broke) ← Scan.plain s.inFlow least s.cursor
  return { s with cursor, tokens := s.tokens.push (.scalar .plain text), keyAllowed := broke }

/-- Characters that start no plain scalar. -/
def startsNoPlain (c : Char) : Bool :=
  ['-', '?', ':', ',', '[', ']', '\x7b', '\x7d', '#', '&', '*', '!', '|', '>', '\'', '"', '%', '@', '`'].contains c

/-- Whether a plain scalar starts here. -/
def startsPlain (s : Scanner) : Bool :=
  match s.cursor.peek with
  | none => false
  | some x =>
    !(s.cursor.blankAt 0 || startsNoPlain x) ||
      x == '-' && !((s.cursor.peekAt 1).map isSpace).getD false ||
      !s.inFlow && (x == '?' || x == ':') && !s.cursor.blankAt 1

/-- A line that starts or ends a document. -/
def scanMarker (s : Scanner) (token : Token) : Except Fault Scanner := do
  let s ← s.endBlocks
  return { s with cursor := s.cursor.skip 3, tokens := s.tokens.push token }

/-- Adds the tokens for what starts at the next character `x`. -/
def scanToken (s : Scanner) (x : Char) : Except Fault Scanner :=
  let c := s.cursor
  if c.column == 0 && x == '%' then do
    let s ← s.endBlocks
    let (token, cursor) ← Scan.directive s.cursor
    return { s with cursor, tokens := s.tokens.push token }
  else if c.startsMarker '-' then s.scanMarker .documentStart
  else if c.startsMarker '.' then s.scanMarker .documentEnd
  else if x == '[' then s.openFlow .openSequence
  else if x == '\x7b' then s.openFlow .openMapping
  else if x == ']' then s.closeFlow .closeSequence
  else if x == '\x7d' then s.closeFlow .closeMapping
  else if x == ',' then do return (← s.dropPlace).indicator .separator true
  else if x == '-' && c.blankAt 1 then s.scanItem
  else if x == '?' && (s.inFlow || c.blankAt 1) then s.scanKey
  else if x == ':' && (s.inFlow || c.blankAt 1) then s.scanValue
  else if x == '*' then s.scanNode fun c => do let (name, c) ← Scan.anchorName c; return (.alias name, c)
  else if x == '&' then s.scanNode fun c => do let (name, c) ← Scan.anchorName c; return (.anchor name, c)
  else if x == '!' then s.scanNode (Scan.tag s.inFlow)
  else if x == '|' && !s.inFlow then s.scanBlock false
  else if x == '>' && !s.inFlow then s.scanBlock true
  else if x == '\'' || x == '"' then
    s.scanNode fun c => do
      let single := x == '\''
      let (text, c) ← Scan.quoted single c
      return (.scalar (if single then .singleQuoted else .doubleQuoted) text, c)
  else if s.startsPlain then s.scanPlain
  else .error .badCharacter

/-- Adds tokens until the text ends. Each round goes forward, so one for each character and a
last one for the end suffice. -/
def run : Nat → Scanner → Except Fault (Array Token)
  | 0, s => .ok s.tokens
  | fuel + 1, s => do
    let s ← (skipToToken (s.cursor.rest.length + 1) s).dropStale
    let s := s.closeTo (some s.cursor.column)
    match s.cursor.peek with
    | some x => run fuel (← s.scanToken x)
    | none => return (← s.endBlocks).tokens

end Scanner

/-- The tokens of a text. -/
def Token.ofText (text : String) : Except Fault (List Token) :=
  let characters := text.toList
  if characters.all isAllowed then
    (Scanner.run (characters.length + 1) (.start characters)).map Array.toList
  else .error .badCharacter

end Upkeep.Yaml
