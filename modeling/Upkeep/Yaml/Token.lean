/-! Places in a YAML text, and its tokens. A place has the characters still ahead and says where they
stand. Lines end at a line feed, a carriage return, both together, U+0085, U+2028 or U+2029. -/
namespace Upkeep.Yaml

/-- Characters that end a line. -/
def isBreak (c : Char) : Bool :=
  c == '\n' || c == '\r' || c == '\u0085' || c == '\u2028' || c == '\u2029'

/-- Spaces and tabs. -/
def isSpace (c : Char) : Bool :=
  c == ' ' || c == '\t'

/-- Characters of anchors and directive names. -/
def isWord (c : Char) : Bool :=
  c.isAlphanum || c == '-' || c == '_'

/-- Characters that a document may hold. -/
def isAllowed (c : Char) : Bool :=
  let n := c.toNat
  n == 9 || n == 0xA || n == 0xD || (0x20 ≤ n && n ≤ 0x7E) || n == 0x85 ||
    (0xA0 ≤ n && n ≤ 0xD7FF) || (0xE000 ≤ n && n ≤ 0xFFFD) || 0x10000 ≤ n

/-- A place in a text. -/
structure Cursor where
  /-- The characters ahead. -/
  rest : List Char
  /-- How many bytes lie behind, in UTF-8. -/
  index : Nat
  /-- How many lines lie behind. -/
  line : Nat
  /-- How many characters of this line lie behind. -/
  column : Nat

namespace Cursor

/-- The start of a text. -/
def start (text : List Char) : Cursor :=
  ⟨text, 0, 0, 0⟩

/-- The next character. -/
def peek (c : Cursor) : Option Char :=
  c.rest.head?

/-- The character `n` places ahead. -/
def peekAt (c : Cursor) (n : Nat) : Option Char :=
  c.rest[n]?

/-- Whether the character `n` places ahead is a space, a tab, a line break or the end. -/
def blankAt (c : Cursor) (n : Nat) : Bool :=
  match c.peekAt n with
  | none => true
  | some x => isSpace x || isBreak x

/-- Whether the next character is `x`. -/
def next (c : Cursor) (x : Char) : Bool :=
  c.peek == some x

/-- The bytes of some characters in UTF-8. -/
def bytes (s : List Char) : Nat :=
  s.foldr (fun x size => x.utf8Size + size) 0

/-- Goes past `n` characters of this line. -/
def skip (c : Cursor) (n : Nat) : Cursor :=
  ⟨c.rest.drop n, c.index + bytes (c.rest.take n), c.line, c.column + n⟩

/-- The characters of this line that pass a test, and the place after them. -/
def span (c : Cursor) (test : Char → Bool) : List Char × Cursor :=
  let taken := c.rest.takeWhile test
  (taken, c.skip taken.length)

/-- The place after the characters of this line that pass a test. -/
def skipWhile (c : Cursor) (test : Char → Bool) : Cursor :=
  (c.span test).2

/-- Goes past a line break. Of the break a scalar keeps a line feed, or the separator itself
where it is a line or paragraph separator. -/
def takeBreak (c : Cursor) : List Char × Cursor :=
  match c.rest with
  | '\r' :: '\n' :: rest => (['\n'], ⟨rest, c.index + 2, c.line + 1, 0⟩)
  | x :: rest =>
    if isBreak x then
      ([if x == '\u2028' || x == '\u2029' then x else '\n'],
        ⟨rest, c.index + x.utf8Size, c.line + 1, 0⟩)
    else ([], c)
  | [] => ([], c)

/-- Goes past a comment, up to the end of its line. -/
def skipComment (c : Cursor) : Cursor :=
  if c.next '#' then c.skipWhile (!isBreak ·) else c

/-- Whether three equal marks followed by a blank open this line. -/
def startsMarker (c : Cursor) (mark : Char) : Bool :=
  c.column == 0 && c.next mark && c.peekAt 1 == some mark && c.peekAt 2 == some mark && c.blankAt 3

/-- Whether a line that starts or ends a document is ahead. -/
def startsDocumentMarker (c : Cursor) : Bool :=
  c.startsMarker '-' || c.startsMarker '.'

end Cursor

/-! ## Tokens

What the characters of a text say before any nesting is built. -/

/-- How a scalar is written. -/
inductive Style where
  | plain
  | singleQuoted
  | doubleQuoted
  | literal
  | folded
  deriving DecidableEq, Repr

/-- A token of a YAML text. Block collections have tokens of their own, which stand for a
change of indentation; `key` and `value` mark the sides of an entry. -/
inductive Token where
  | version (major minor : Nat)
  | handle (handle expansion : String)
  | documentStart
  | documentEnd
  | blockSequence
  | blockMapping
  | blockEnd
  | openSequence
  | closeSequence
  | openMapping
  | closeMapping
  | item
  | separator
  | key
  | value
  | alias (name : String)
  | anchor (name : String)
  | tag (handle suffix : String)
  | scalar (style : Style) (text : String)
  deriving DecidableEq, Repr

end Upkeep.Yaml
