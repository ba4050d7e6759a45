import Upkeep.Decimal.Numeral
import Upkeep.Log.Condition
import Upkeep.Log.Event
import Upkeep.Text.Alphanumeric
import Upkeep.Text.Cut

/-! Directives: limits for what has a certain target, span or field. A directive is written
`target[span{field=value}]=level`, with most of its parts left out, or as a level alone. -/
namespace Upkeep.Log

/-! ## Limits -/

/-- The highest level that is logged, or nothing at all. -/
abbrev Limit := Option Level

namespace Limit

/-- The word for a limit. -/
def text : Limit → String
  | none => "off"
  | some .error => "error"
  | some .warn => "warn"
  | some .info => "info"
  | some .debug => "debug"
  | some .trace => "trace"

/-- How much a limit lets through. -/
def detail : Limit → Nat
  | none => 0
  | some level => level.detail

/-- Whether a limit lets a level through. -/
def admits (limit : Limit) (level : Level) : Bool :=
  level.detail ≤ detail limit

/-- The limit that lets more through. -/
def looser (a b : Limit) : Limit :=
  if detail a < detail b then b else a

/-- The limit of a number. -/
def ofNumber? : Nat → Option Limit
  | 0 => some none
  | 1 => some (some .error)
  | 2 => some (some .warn)
  | 3 => some (some .info)
  | 4 => some (some .debug)
  | 5 => some (some .trace)
  | _ => none

/-- The limit of a word, in any case, or of a number. -/
def ofText? (s : String) : Option Limit :=
  match s.toLower with
  | "off" => some none
  | "error" => some (some .error)
  | "warn" => some (some .warn)
  | "info" => some (some .info)
  | "debug" => some (some .debug)
  | "trace" => some (some .trace)
  | _ => (Decimal.unsigned? s.toList).bind ofNumber?

/-- The limit after an equals sign; everything where there is none. -/
def afterEquals? (s : String) : Option Limit :=
  if s.isEmpty then some (some .trace) else ofText? s

end Limit

/-! ## Directives -/

/-- A directive. -/
structure Directive where
  /-- What the target of an event has to start with. -/
  target : Option String
  /-- The span that the directive is about. -/
  span : Option String
  /-- A condition on a field. -/
  condition : Option Condition
  /-- The highest level. -/
  limit : Limit
  deriving Repr

namespace Directive

/-- A directive that only sets a limit. -/
def ofLimit (limit : Limit) : Directive :=
  ⟨none, none, none, limit⟩

/-- How far the marks of a directive have been read, and where the part starts that is not complete
yet, in bytes. -/
inductive Stage where
  | outset
  /-- In a target, or in a level that stands alone. -/
  | word (start : Nat)
  | span (start : Nat)
  | field (start : Nat)
  /-- After the closing brace of a field. -/
  | fieldEnd
  /-- After the closing bracket of a span. -/
  | spanEnd
  | level (start : Nat)

/-- What has been read of a directive. -/
structure Draft where
  stage : Stage
  directive : Directive

/-- The part of a text between two distances from its start, in bytes. Characters are not cut. -/
def part? (s : String) (start stop : Nat) : Option String :=
  String.fromUTF8? (s.toUTF8.extract start stop)

/-- The part of a text from a distance on. -/
def partFrom? (s : String) (start : Nat) : Option String :=
  part? s start s.utf8ByteSize

/-- Characters that a directive may start with, the opening bracket apart. -/
def starts (c : Char) : Bool :=
  c == '-' || c == ':' || c == '_' || Text.isAlphanumeric c

/-- Goes past the next character, which stands at a distance from the first. -/
def Draft.step? (written : String) (draft : Draft) (place : Nat × Char) : Option Draft :=
  let (here, c) := place
  let d := draft.directive
  match draft.stage with
  | .outset =>
    if c == '[' then some ⟨.span (here + 1), d⟩
    else if starts c then some ⟨.word here, d⟩
    else none
  | .word start =>
    if c == '=' then
      (part? written start here).map fun target => ⟨.level (here + 1), { d with target }⟩
    else if c == '[' then
      (part? written start here).map fun target => ⟨.span (here + 1), { d with target }⟩
    else some draft
  | .span start =>
    if c == ']' then (part? written start here).map fun span => ⟨.spanEnd, { d with span }⟩
    else if c == '\x7b' then
      (part? written start here).map fun span =>
        ⟨.field (here + 1), { d with span := if span.isEmpty then none else some span }⟩
    else some draft
  | .field start =>
    if c == '\x7d' then do
      let field ← part? written start here
      if field.isEmpty then none
      else (Condition.read? field).map fun condition => ⟨.fieldEnd, { d with condition }⟩
    else some draft
  | .fieldEnd => if c == ']' then some ⟨.spanEnd, d⟩ else none
  | .spanEnd => if c == '=' then some ⟨.level (here + 1), d⟩ else none
  | .level _ => some draft

/-- The directive, once all marks have been read. A word alone is a level if it can be one, and a
target otherwise. Where no level is given, everything is let through. -/
def Draft.finish? (written : String) (draft : Draft) : Option Directive :=
  let d := draft.directive
  match draft.stage with
  | .word start =>
    (partFrom? written start).map fun word =>
      match Limit.ofText? word with
      | some limit => ofLimit limit
      | none => { d with target := some word }
  | .level start =>
    ((partFrom? written start).bind Limit.afterEquals?).map fun limit => { d with limit }
  | .spanEnd => some d
  | _ => none

/-- Characters with their distances from the first one, in bytes. -/
def placed (here : Nat) : List Char → List (Nat × Char)
  | [] => []
  | c :: rest => (here, c) :: placed (here + c.utf8Size) rest

/-- Reads a directive. Its marks are looked for without the blanks around it, but its parts are cut
out of the text as it is written, at the distances of the marks from the first of them that is not
blank. -/
def read? (written : String) : Option Directive := do
  let draft ← (placed 0 (Text.trim written).toList).foldlM (Draft.step? written)
    ⟨.outset, ofLimit (some .trace)⟩
  draft.finish? written

/-- Whether a directive is about spans or fields. -/
def isDynamic (d : Directive) : Bool :=
  d.span.isSome || d.condition.isSome

/-- Whether a directive expects a value of a field. -/
def expectsValue (d : Directive) : Bool :=
  d.condition.any fun c => c.value.isSome

/-- Whether a directive can be decided by looking at an event. -/
def isStatic (d : Directive) : Bool :=
  d.span.isNone && !d.expectsValue

/-- A directive as it is written. -/
def text (d : Directive) : String :=
  let field := match d.condition with
    | some c => "\x7b" ++ c.text ++ "\x7d"
    | none => ""
  let span := if d.isDynamic then "[" ++ d.span.getD "" ++ field ++ "]" else ""
  let subject := d.target.getD "" ++ span
  if d.target.isSome || d.isDynamic then subject ++ "=" ++ d.limit.text else d.limit.text

/-- The order of the conditions of two directives; none comes first. -/
def orderOfConditions : Option Condition → Option Condition → Ordering
  | some c, some d => c.order d
  | c, d => compare c.isSome d.isSome

/-- The order of what directives are about, the most specific last: longer targets, then spans, then
fields, and what is equally specific by its text. -/
def order (d e : Directive) : Ordering :=
  (compare (d.target.map String.utf8ByteSize) (e.target.map String.utf8ByteSize)).then <|
  (compare d.span.isSome e.span.isSome).then <|
  (compare d.condition.isSome e.condition.isSome).then <|
  (compare d.target e.target).then <|
  (compare d.span e.span).then (orderOfConditions d.condition e.condition)

/-- Whether a directive is about a target. -/
def coversTarget (d : Directive) (target : String) : Bool :=
  d.target.all fun start => target.startsWith start

/-- Whether a directive is about events of a target that have some fields. -/
def coversEvent (d : Directive) (target : String) (fields : List String) : Bool :=
  d.coversTarget target && d.condition.all fun c => fields.contains c.name

/-- Whether a directive is about spans of a target that have a name and some fields. -/
def coversSpan (d : Directive) (target name : String) (fields : List String) : Bool :=
  d.coversEvent target fields && d.span.all fun span => span == name

end Directive

end Upkeep.Log
