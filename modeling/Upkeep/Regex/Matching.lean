import Upkeep.Regex.Reader

/-! Which texts an expression matches up to their end. Where it can match in several ways, the ways
are ordered: an earlier start comes first, then earlier branches, and more occurrences or fewer, as
the expression says. Only the first way counts. -/
namespace Upkeep.Regex

/-- Whether a character is part of a word, in ASCII. -/
def isAsciiWord (c : Char) : Bool :=
  c.isAlphanum || c == '_'

/-- Whether a place is before the character number `i` of a text. -/
def Place.holds (s : Array Char) (i : Nat) (p : Place) : Bool :=
  let before := if i = 0 then none else s[i - 1]?
  let after := s[i]?
  let wordBefore := before.any isAsciiWord
  let wordAfter := after.any isAsciiWord
  match p with
  | .textStart => before.isNone
  | .textEnd => after.isNone
  | .lineStart returns =>
    before.isNone || before == some '\n' ||
      returns && before == some '\r' && after != some '\n'
  | .lineEnd returns =>
    after.isNone || returns && after == some '\r' ||
      after == some '\n' && !(returns && before == some '\r')
  | .wordEdge => wordBefore != wordAfter
  | .noWordEdge => wordBefore == wordAfter
  | .wordStart => !wordBefore && wordAfter
  | .wordEnd => wordBefore && !wordAfter

/-- Where a part ends that may be left out, the best end first. -/
def orNothing (greedy : Bool) (ends : List Nat) (i : Nat) : List Nat :=
  if greedy then ends ++ [i] else i :: ends

/-- Where a part ends that occurs at least once. After an occurrence without any character there
is no further one. -/
def iterated (greedy : Bool) (step : Nat → List Nat) : Nat → Nat → List Nat
  | 0, _ => []
  | fuel + 1, i =>
    ((step i).flatMap fun j =>
      if j = i then [i] else orNothing greedy (iterated greedy step fuel j) j).eraseDups

mutual

/-- Where an expression can end that starts before the character number `i`, the best end first. -/
def ends (s : Array Char) : Regex → Nat → List Nat
  | nothing, i => [i]
  | one mode set, i =>
    match s[i]? with
    | some c => if (mode.variants c).any (set.holds mode) then [i + 1] else []
    | none => []
  | other than, i =>
    match s[i]? with
    | some c => if than.contains c then [] else [i + 1]
    | none => []
  | place p, i => if p.holds s i then [i] else []
  | repeated times greedy part, i =>
    match times with
    | .atMostOnce => orNothing greedy (ends s part i) i
    | .atLeastOnce => iterated greedy (ends s part) (s.size + 1) i
    | .anyNumber => orNothing greedy (iterated greedy (ends s part) (s.size + 1) i) i
  | group inner, i => ends s inner i
  | sequence parts, i => endsOfSequence s parts i
  | choice branches, i => endsOfChoice s branches i

/-- Where parts end that follow each other. -/
def endsOfSequence (s : Array Char) : List Regex → Nat → List Nat
  | [], i => [i]
  | part :: parts, i => ((ends s part i).flatMap fun j => endsOfSequence s parts j).eraseDups

/-- Where branches end. -/
def endsOfChoice (s : Array Char) : List Regex → Nat → List Nat
  | [], _ => []
  | branch :: branches, i => (ends s branch i ++ endsOfChoice s branches i).eraseDups

end

/-- Whether the best way to match in a text goes up to its end. -/
def admits (r : Regex) (text : String) : Bool :=
  let s := text.toList.toArray
  (List.range (s.size + 1)).findSome? (fun i => (r.ends s i).head?) == some s.size

end Upkeep.Regex
