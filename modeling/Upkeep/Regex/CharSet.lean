import Upkeep.Text.CaseFolding
import Upkeep.Text.Category
import Upkeep.Text.Cut

/-! Sets of characters as regular expressions write them: ranges, classes with a name, and sets in
brackets, which nest and can be combined. -/
namespace Upkeep.Regex

/-- How characters are compared. -/
structure Mode where
  /-- Whether case does not matter. -/
  foldCase : Bool
  /-- Whether classes and case are those of ASCII alone. -/
  ascii : Bool
  deriving DecidableEq, Repr

/-- A class of characters with a name. -/
inductive ClassName where
  | digit
  | blank
  | word
  | letters
  | marks
  | numbers
  | punctuation
  | symbols
  | separators
  /-- What is in none of the other six. -/
  | others
  /-- A class of ASCII characters that is written between colons. -/
  | posix (name : String)
  deriving DecidableEq, Repr

namespace ClassName

/-- The class of a letter after `\p`. -/
def ofLetter? (c : Char) : Option ClassName :=
  match c.toLower with
  | 'l' => some letters
  | 'm' => some marks
  | 'n' => some numbers
  | 'p' => some punctuation
  | 's' => some symbols
  | 'z' => some separators
  | 'c' => some others
  | _ => none

/-- The names that can be written between colons. -/
def posixNames : List String :=
  ["alnum", "alpha", "ascii", "blank", "cntrl", "digit", "graph", "lower", "print", "punct",
    "space", "upper", "word", "xdigit"]

/-- Whether a character is in an ASCII class. -/
def posixHolds (name : String) (c : Char) : Bool :=
  let n := c.toNat
  let space := n == 0x20 || (9 ≤ n && n ≤ 13)
  let graph := 0x21 ≤ n && n ≤ 0x7E
  match name with
  | "alnum" => c.isAlphanum
  | "alpha" => c.isAlpha
  | "ascii" => n < 0x80
  | "blank" => c == ' ' || c == '\t'
  | "cntrl" => n < 0x20 || n == 0x7F
  | "digit" => c.isDigit
  | "graph" => graph
  | "lower" => c.isLower
  | "print" => graph || c == ' '
  | "punct" => graph && !c.isAlphanum
  | "space" => space
  | "upper" => c.isUpper
  | "word" => c.isAlphanum || c == '_'
  | "xdigit" => c.isDigit || ('a' ≤ c && c ≤ 'f') || ('A' ≤ c && c ≤ 'F')
  | _ => false

/-- Whether a character is in one of some categories. -/
def inAny (categories : List Text.Category) (c : Char) : Bool :=
  categories.any fun k => k.holds c

/-- The categories that have a letter for themselves. -/
def categories : ClassName → List Text.Category
  | letters => [.letter]
  | marks => [.mark]
  | numbers => [.decimalDigit, .letterNumber, .otherNumber]
  | punctuation => [.connector, .punctuation]
  | symbols => [.symbol]
  | separators => [.separator]
  | _ => []

/-- Whether a character is in a class. -/
def holds (ascii : Bool) (name : ClassName) (c : Char) : Bool :=
  match name with
  | digit => if ascii then c.isDigit else Text.Category.decimalDigit.holds c
  | blank => if ascii then posixHolds "space" c else Text.isBlank c
  | word => if ascii then posixHolds "word" c else Text.isWordCharacter c
  | posix name => posixHolds name c
  | others =>
    !inAny ([letters, marks, numbers, punctuation, symbols, separators].flatMap categories) c
  | name => inAny name.categories c

end ClassName

/-- How two sets are combined. -/
inductive Combination where
  | both
  | without
  | either
  deriving DecidableEq, Repr

/-- A set of characters. -/
inductive CharSet where
  | range (first last : Char)
  | named (name : ClassName) (negated : Bool)
  | union (sets : List CharSet)
  /-- A set in brackets. -/
  | bracket (negated : Bool) (set : CharSet)
  | combined (how : Combination) (left right : CharSet)
  deriving Repr, Inhabited

namespace Mode

/-- The characters that are equal to one. -/
def variants (m : Mode) (c : Char) : List Char :=
  if !m.foldCase then [c]
  else if m.ascii then [c.toLower, c.toUpper]
  else Text.caseVariants c

end Mode

namespace CharSet

mutual

/-- Whether a character is in a set. In brackets and before two sets are combined, case is let go
of first; a set is negated last. -/
def holds (m : Mode) : CharSet → Char → Bool
  | range first last, c => first ≤ c && c ≤ last
  | named name negated, c => name.holds m.ascii c != negated
  | union sets, c => anyHolds m sets c
  | bracket negated set, c => (m.variants c).any (holds m set) != negated
  | combined how left right, c =>
    let inLeft := (m.variants c).any (holds m left)
    let inRight := (m.variants c).any (holds m right)
    match how with
    | .both => inLeft && inRight
    | .without => inLeft && !inRight
    | .either => inLeft != inRight

/-- Whether a character is in one of some sets. -/
def anyHolds (m : Mode) : List CharSet → Char → Bool
  | [], _ => false
  | set :: sets, c => holds m set c || anyHolds m sets c

end

mutual

/-- How deep a set nests. -/
def depth : CharSet → Nat
  | range _ _ | named _ _ => 0
  | union sets => 1 + depthOfAll sets
  | bracket _ set => 1 + set.depth
  | combined _ left right => 1 + max left.depth right.depth

/-- How deep the deepest of some sets nests. -/
def depthOfAll : List CharSet → Nat
  | [] => 0
  | set :: sets => max set.depth (depthOfAll sets)

end

/-- The set of the items of a bracket, of which one stands for itself. -/
def ofItems : List CharSet → CharSet
  | [set] => set
  | sets => if sets.isEmpty then .range 'b' 'a' else .union sets

end CharSet

end Upkeep.Regex
