import Upkeep.Decimal.Binary64

/-! What a YAML document holds, and why a text is none. -/
namespace Upkeep.Yaml

/-! ## Faults

Users are told that a file failed to parse; these causes have no wording of their own here. -/

/-- Why a text was refused as a YAML document. -/
inductive Fault where
  /-- A character that no document may hold, or that starts nothing. -/
  | badCharacter
  /-- A `%` line that is malformed, unknown, repeated or of an unsupported version. -/
  | badDirective
  /-- A tag that is malformed or uses an undeclared handle. -/
  | badTag
  /-- An anchor or alias without a proper name. -/
  | badAnchor
  /-- An alias whose anchor does not come before it. -/
  | unknownAnchor
  /-- An unknown or malformed escape in a double-quoted scalar. -/
  | badEscape
  /-- A quoted scalar that does not end. -/
  | unclosedQuote
  /-- A block scalar with a malformed first line. -/
  | badBlockHeader
  /-- Tabs where spaces have to indent. -/
  | tabIndentation
  /-- A `-`, `?` or `:` where none may stand. -/
  | misplacedIndicator
  /-- A line that has to be a key but has no `:`. -/
  | missingColon
  /-- A `:` in a flow collection that runs into a bracket. -/
  | colonBeforeBracket
  /-- A place where a value, an entry or a closing bracket is missing. -/
  | unexpectedToken
  /-- More than one document. -/
  | secondDocument
  /-- Collections nested more deeply than a reader follows. -/
  | tooDeep
  /-- Aliases that repeat too much. -/
  | tooManyAliases
  /-- A mapping with the same key twice. -/
  | repeatedKey
  /-- A whole number beyond 64 bits. -/
  | numberTooLarge
  /-- A scalar that does not fit the type its tag asks for. -/
  | wrongTag
  /-- A value of another kind than the one asked for. -/
  | wrongKind
  /-- A field that has to be there is not. -/
  | missingField
  deriving DecidableEq, Repr

/-! ## Values

What a document holds once its syntax is gone. Whole numbers and binary
floating-point numbers are different values, and a value may carry one tag of the document's
own making. -/

/-- A YAML value. -/
inductive Value where
  | null
  | bool (value : Bool)
  | int (value : Int)
  | float (value : Binary64)
  | text (value : String)
  | sequence (items : List Value)
  | mapping (entries : List (Value × Value))
  | tagged (tag : String) (value : Value)
  deriving Repr, Inhabited

namespace Value

mutual

/-- Whether two values count as the same mapping key. Floating-point numbers are compared as
numbers, and the order of the entries of a mapping does not matter. -/
def sameKey : Value → Value → Bool
  | .null, .null => true
  | .bool a, .bool b => a == b
  | .int a, .int b => a == b
  | .float a, .float b => a.sameNumber b
  | .text a, .text b => a == b
  | .sequence a, .sequence b => sameItems a b
  | .mapping a, .mapping b => a.length == b.length && entriesWithin a b
  | .tagged s a, .tagged t b => s == t && sameKey a b
  | _, _ => false

/-- Whether two sequences agree item by item. -/
def sameItems : List Value → List Value → Bool
  | [], [] => true
  | a :: as, b :: bs => sameKey a b && sameItems as bs
  | _, _ => false

/-- Whether each entry on the left has a partner on the right. -/
def entriesWithin : List (Value × Value) → List (Value × Value) → Bool
  | [], _ => true
  | (k, v) :: rest, other =>
    (other.any fun (k', v') => sameKey k k' && sameKey v v') && entriesWithin rest other

end

end Value

end Upkeep.Yaml
