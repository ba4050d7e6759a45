import Upkeep.Decimal.Numeral
import Upkeep.Yaml.Token
import Upkeep.Yaml.Value

/-! Reading what qualifies a node or a document: anchors, aliases, tags and the lines that
start with `%`. -/
namespace Upkeep.Yaml.Scan

/-- The name after `&` or `*`. It has to end at a blank or at one of a few marks. -/
def anchorName (c : Cursor) : Except Fault (String × Cursor) :=
  let (name, after) := (c.skip 1).span isWord
  let ended : Bool := after.blankAt 0 ||
    match after.peek with
    | some x => ['?', ':', ',', ']', '\x7d', '%', '@', '`'].contains x
    | none => true
  if name.isEmpty || !ended then .error .badAnchor else .ok (String.ofList name, after)

/-- Characters of a tag. A verbatim tag may hold a comma and square brackets too. -/
def isTagCharacter (verbatim : Bool) (c : Char) : Bool :=
  isWord c || [';', '/', '?', ':', '@', '&', '=', '+', '$', '.', '!', '~', '*', '\'', '(', ')'].contains c ||
    verbatim && [',', '[', ']'].contains c

/-- How many bytes an encoded character has, by its first byte. -/
def encodedLength? (byte : Nat) : Option Nat :=
  if byte < 0x80 then some 1
  else if 0xC0 ≤ byte && byte < 0xE0 then some 2
  else if 0xE0 ≤ byte && byte < 0xF0 then some 3
  else if 0xF0 ≤ byte && byte < 0xF8 then some 4
  else none

/-- The byte of one `%` escape, and what follows it. -/
def escapedByte? : List Char → Option (UInt8 × List Char)
  | '%' :: a :: b :: rest => (Decimal.numeral? 16 [a, b]).map fun n => (UInt8.ofNat n, rest)
  | _ => none

/-- The bytes of `count` escapes in a row. -/
def escapedBytes? : Nat → List Char → Option (List UInt8 × List Char)
  | 0, s => some ([], s)
  | count + 1, s => do
    let (byte, rest) ← escapedByte? s
    let (bytes, rest) ← escapedBytes? count rest
    return (byte :: bytes, rest)

/-- One character of a tag that is written in `%` escapes, byte by byte. -/
def escapedCharacter? (s : List Char) : Option (List Char × List Char) := do
  let (first, _) ← escapedByte? s
  let count ← encodedLength? first.toNat
  let (bytes, rest) ← escapedBytes? count s
  let text ← String.fromUTF8? ⟨bytes.toArray⟩
  return (text.toList, rest)

/-- The characters of a tag, escapes resolved, and what follows them. -/
def tagText (verbatim : Bool) : Nat → List Char → Except Fault (List Char × List Char)
  | 0, s => .ok ([], s)
  | fuel + 1, s =>
    match s with
    | [] => .ok ([], [])
    | c :: rest =>
      if c == '%' then
        match escapedCharacter? s with
        | some (text, rest) => (tagText verbatim fuel rest).map fun (more, after) => (text ++ more, after)
        | none => .error .badTag
      else if isTagCharacter verbatim c then
        (tagText verbatim fuel rest).map fun (more, after) => (c :: more, after)
      else .ok ([], s)

/-- The characters of a tag at a place. -/
def tagTextAt (verbatim : Bool) (c : Cursor) : Except Fault (List Char × Cursor) :=
  (tagText verbatim c.rest.length c.rest).map fun (text, after) =>
    (text, c.skip (c.rest.length - after.length))

/-- A tag handle: `!`, and if a second `!` closes it, the word before that. -/
def handleText (c : Cursor) : Except Fault (List Char × Bool × Cursor) :=
  if !c.next '!' then .error .badTag
  else
    let (name, after) := (c.skip 1).span isWord
    if after.next '!' then .ok ('!' :: name ++ ['!'], true, after.skip 1)
    else .ok ('!' :: name, false, after)

/-- A tag: `!<verbatim>`, `!handle!suffix`, `!suffix`, or `!` alone. The last has no handle. -/
def tag (flow : Bool) (c : Cursor) : Except Fault (Token × Cursor) := do
  let (token, after) ← (do
    if c.peekAt 1 == some '<' then
      let (text, after) ← tagTextAt true (c.skip 2)
      if text.isEmpty || !after.next '>' then .error .badTag
      else return (Token.tag "" (String.ofList text), after.skip 1)
    else
      let (handle, closed, after) ← handleText c
      let (text, after) ← tagTextAt false after
      if closed then
        if text.isEmpty then .error .badTag
        else return (Token.tag (String.ofList handle) (String.ofList text), after)
      else
        match handle.drop 1 ++ text with
        | [] => return (Token.tag "" "!", after)
        | suffix => return (Token.tag "!" (String.ofList suffix), after)
    : Except Fault (Token × Cursor))
  if after.blankAt 0 || flow && after.next ',' then return (token, after)
  else .error .badTag

/-- A number of a version, of at most nine digits. -/
def versionNumber (c : Cursor) : Except Fault (Nat × Cursor) :=
  let (digits, after) := c.span Char.isDigit
  match Decimal.numeral? 10 digits with
  | some n => if digits.length ≤ 9 then .ok (n, after) else .error .badDirective
  | none => .error .badDirective

/-- The rest of a directive line, which may hold nothing but blanks and a comment. -/
def endDirective (c : Cursor) : Except Fault Cursor :=
  let c := (c.skipWhile isSpace).skipComment
  match c.peek with
  | none => .ok c
  | some x => if isBreak x then .ok c.takeBreak.2 else .error .badDirective

/-- A directive at the place of its `%`. -/
def directive (c : Cursor) : Except Fault (Token × Cursor) := do
  let (name, c) := (c.skip 1).span isWord
  if name.isEmpty || !c.blankAt 0 then .error .badDirective
  else
    let c := c.skipWhile isSpace
    match String.ofList name with
    | "YAML" =>
      let (major, c) ← versionNumber c
      if !c.next '.' then .error .badDirective
      else
        let (minor, c) ← versionNumber (c.skip 1)
        return (.version major minor, ← endDirective c)
    | "TAG" =>
      let (handle, closed, c) ← handleText c
      if !(closed || handle == ['!']) || !(c.blankAt 0 && (c.peek.map isSpace).getD false) then
        .error .badDirective
      else
        let (text, c) ← tagTextAt true (c.skipWhile isSpace)
        if text.isEmpty || !c.blankAt 0 then .error .badDirective
        else return (.handle (String.ofList handle) (String.ofList text), ← endDirective c)
    | _ => .error .badDirective

end Upkeep.Yaml.Scan
