import Upkeep.Regex.CharSet

/-! Regular expressions as trees. -/
namespace Upkeep

namespace Regex

/-- A place between two characters. Words are those of ASCII. -/
inductive Place where
  | textStart
  | textEnd
  /-- The start of a line; a carriage return with the line feed after it may end one. -/
  | lineStart (returns : Bool)
  /-- The end of a line. -/
  | lineEnd (returns : Bool)
  | wordEdge
  | noWordEdge
  | wordStart
  | wordEnd
  deriving DecidableEq, Repr

/-- How often a part may occur. -/
inductive Times where
  | atMostOnce
  | anyNumber
  | atLeastOnce
  deriving DecidableEq, Repr

end Regex

open Regex in
/-- A regular expression. -/
inductive Regex where
  | nothing
  /-- A character of a set. -/
  | one (mode : Mode) (set : CharSet)
  /-- Any character but some. -/
  | other (than : List Char)
  | place (place : Place)
  /-- A part that may occur again. The more occurrences the better, or the fewer. -/
  | repeated (times : Times) (greedy : Bool) (part : Regex)
  | group (inner : Regex)
  | sequence (parts : List Regex)
  /-- One of some branches, the earlier the better. -/
  | choice (branches : List Regex)
  deriving Repr, Inhabited

namespace Regex

mutual

/-- How deep an expression nests. -/
def depth : Regex → Nat
  | nothing | other _ | place _ => 0
  | one _ set => set.depth
  | repeated _ _ part => 1 + part.depth
  | group inner => 1 + inner.depth
  | sequence parts => 1 + depthOfAll parts
  | choice branches => 1 + depthOfAll branches

/-- How deep the deepest of some expressions nests. -/
def depthOfAll : List Regex → Nat
  | [] => 0
  | part :: parts => max part.depth (depthOfAll parts)

end

/-- The expression of parts that follow each other, of which one stands for itself. -/
def ofParts : List Regex → Regex
  | [] => nothing
  | [part] => part
  | parts => sequence parts

/-- The expression of branches, of which one stands for itself. -/
def ofBranches : List Regex → Regex
  | [branch] => branch
  | branches => choice branches

end Regex

end Upkeep
