import Upkeep.Fault
import Upkeep.SortedMap
import Upkeep.Text.Alphanumeric
import Upkeep.Text.Cut

/-! Environment variables: those of the service, which its unit sets, and those of the process
that maintains it. -/
namespace Upkeep

/-- Environment variables by name. -/
abbrev Environment := SortedMap String

namespace Environment

/-- The variable that names the deployment environment. -/
def deploymentVariable : String := "SERVICE_ENVIRONMENT"

/-- The name of the deployment environment, if it is set. -/
def deployment? (e : Environment) : Option String :=
  e.get? deploymentVariable

/-- The service's environment when no file gives one: the deployment environment alone, as the
process has it. -/
def ofProcess (process : Environment) : Environment :=
  match deployment? process with
  | some name => (∅ : Environment).insert deploymentVariable name
  | none => ∅

/-- The variables of a listing, in which each ends with a zero byte and has its name before the
first equals sign. A variable that is not text counts as unset. -/
def ofListing (listing : ByteArray) : Environment :=
  SortedMap.ofList ((listing.toList.splitOn 0).filterMap fun bytes => do
    let text ← String.fromUTF8? ⟨bytes.toArray⟩
    let (name, value) ← Text.cutFirst ['='] text.toList
    return (String.ofList name, String.ofList value))

end Environment

/-! ## Files of variables

Files of environment variables. A file is cut into logical lines, which may contain line
breaks inside quotes or after a backslash; a line is empty, a comment, or `NAME=value` with an
optional `export` in front. Single quotes keep everything literally. Elsewhere a backslash
escapes and `$NAME` or `${NAME}` stands for a variable: the process's if it has one of that
name, else the one set last in the file, else nothing. -/
namespace Dotenv

/-- Why a file of variables was refused. -/
inductive Refusal where
  /-- The file could not be read. -/
  | unreadable (fault : Fault)
  /-- A line or a value, and how far into it reading got. -/
  | malformed (text : String) (position : Nat)
  deriving DecidableEq, Repr

namespace Refusal

/-- The text that a user sees for a refusal. -/
def message : Refusal → String
  | unreadable fault => fault.message
  | malformed text position => s!"Error parsing line: '{text}', error at line index: {position}"

end Refusal

/-- Where the search for the end of a logical line stands. -/
inductive LineState where
  | complete
  | blank
  | escape
  | double
  | doubleEscape
  | single
  | singleEscape
  | comment
  deriving DecidableEq, Repr

namespace LineState

/-- Quotes and backslashes, which mean the same after a blank as after anything else. -/
def onMark (c : Char) (otherwise : LineState) : LineState :=
  if c = '\\' then .escape
  else if c = '"' then .double
  else if c = '\'' then .single
  else otherwise

/-- The state after a character. A `#` starts a comment only after a single blank. -/
def next : LineState → Char → LineState
  | .complete, c => onMark c (if Text.isBlank c && c != '\n' && c != '\r' then .blank else .complete)
  | .blank, c => if c = '#' then .comment else onMark c .complete
  | .escape, _ => .complete
  | .double, c => if c = '\\' then .doubleEscape else if c = '"' then .complete else .double
  | .doubleEscape, _ => .double
  | .single, c => if c = '\\' then .singleEscape else if c = '\'' then .complete else .single
  | .singleEscape, _ => .single
  | .comment, _ => .comment

/-- The state after some characters, and those before a comment. -/
def scan (state : LineState) : List Char → LineState × List Char
  | [] => (state, [])
  | c :: rest =>
    match state.next c with
    | .comment => (.comment, [])
    | state =>
      let (last, before) := scan state rest
      (last, c :: before)

end LineState

/-- The number of bytes of a text. -/
def byteSize (s : List Char) : Nat :=
  (String.ofList s).utf8ByteSize

/-- A line without the line feed, or carriage return and line feed, that ends it. -/
def chomp (s : List Char) : List Char :=
  match s.reverse with
  | '\n' :: '\r' :: rest => rest.reverse
  | '\n' :: rest => rest.reverse
  | _ => s

/-- The next logical line and the physical lines after it, or nothing at the end. `buffer` holds
the physical lines that already belong to it. -/
def logicalLine (state : LineState) (buffer : List Char) :
    List ByteArray → Except Refusal (Option (List Char × List ByteArray))
  | [] =>
    if state = .complete then .ok none
    else .error (.malformed (String.ofList buffer) (byteSize buffer))
  | line :: rest =>
    match String.fromUTF8? line with
    | none => .error (.unreadable .notText)
    | some text =>
      let whole := buffer ++ text.toList
      if (Text.trimStart whole).head? = some '#' then .ok (some ([], rest))
      else
        match state.scan text.toList with
        | (.complete, _) => .ok (some (chomp whole, rest))
        | (.comment, before) => .ok (some (buffer ++ before, rest))
        | (state, _) => logicalLine state whole rest

/-- The physical lines of a file, each with the line feed that ends it. -/
def physicalLines (bytes : List UInt8) : List ByteArray :=
  (go bytes []).map fun line => ⟨line.toArray⟩
where
  go : List UInt8 → List UInt8 → List (List UInt8)
    | [], [] => []
    | [], line => [line.reverse]
    | byte :: rest, line =>
      if byte = 10 then (byte :: line).reverse :: go rest [] else go rest (byte :: line)

/-- The value that a variable name stands for. -/
def substitute (process known : Environment) (name : List Char) : List Char :=
  let name := String.ofList name
  ((process.get? name).getD ((known.get? name).getD "")).toList

/-- What the characters of a value mean at some point. -/
inductive ValueMode where
  /-- What stands there counts. -/
  | ordinary
  /-- A backslash stands before. -/
  | escaped
  /-- Inside single quotes. -/
  | literal
  /-- After `$` and part of a name. -/
  | name (name : List Char)
  /-- After an opening brace and part of a name. -/
  | braced (name : List Char)
  /-- After a blank that ended the value. -/
  | ended
  deriving DecidableEq, Repr

/-- A value that is being read. -/
structure ValueState where
  /-- What the next character means. -/
  mode : ValueMode
  /-- Whether double quotes are open. -/
  quoted : Bool
  /-- The value so far, reversed. -/
  value : List Char

namespace ValueState

/-- Adds characters to the value. -/
def add (s : ValueState) (text : List Char) (mode : ValueMode) : ValueState :=
  { s with mode, value := text.reverseAux s.value }

/-- The state after a character that stands for itself unless it is a mark. -/
def ordinary (s : ValueState) (c : Char) : ValueState :=
  if c = '$' then { s with mode := .name [] }
  else if s.quoted then
    if c = '"' then { s with quoted := false }
    else if c = '\\' then { s with mode := .escaped }
    else s.add [c] .ordinary
  else if c = '\'' then { s with mode := .literal }
  else if c = '"' then { s with quoted := true }
  else if c = '\\' then { s with mode := .escaped }
  else if c = ' ' || c = '\t' then { s with mode := .ended }
  else s.add [c] .ordinary

/-- The state after a character, or nothing where it cannot stand. -/
def next (process known : Environment) (s : ValueState) (c : Char) : Option ValueState :=
  match s.mode with
  | .ended => if c = ' ' || c = '\t' then some s else none
  | .escaped =>
    if ['\\', '\'', '"', '$', ' '].contains c then some (s.add [c] .ordinary)
    else if c = 'n' then some (s.add ['\n'] .ordinary)
    else none
  | .literal => some (if c = '\'' then { s with mode := .ordinary } else s.add [c] .literal)
  | .name name =>
    if Text.isAlphanumeric c then some { s with mode := .name (name ++ [c]) }
    else if c = '\x7b' && name.isEmpty then some { s with mode := .braced [] }
    else
      let value := substitute process known name
      some (if c = '$' then s.add value (.name []) else s.add (value ++ [c]) .ordinary)
  | .braced name =>
    if !Text.isAlphanumeric c && c = '\x7d' then some (s.add (substitute process known name) .ordinary)
    else some { s with mode := .braced (name ++ [c]) }
  | .ordinary => some (s.ordinary c)

end ValueState

/-- Reads a value. `whole` is all of it and `index` counts the characters read. -/
def valueFrom (process known : Environment) (whole : List Char) (index : Nat) (s : ValueState) :
    List Char → Except Refusal (List Char)
  | [] => finish s
  | c :: rest =>
    if s.mode = .ended && c = '#' then finish s
    else
      match s.next process known c with
      | some s => valueFrom process known whole (index + 1) s rest
      | none => .error (.malformed (String.ofList whole) index)
where
  finish (s : ValueState) : Except Refusal (List Char) :=
    let unfinished : Except Refusal (List Char) :=
      .error (.malformed (String.ofList whole) (byteSize whole - 1))
    match s.mode with
    | .braced _ => unfinished
    | .literal => unfinished
    | .name name =>
      if s.quoted then unfinished else .ok ((substitute process known name).reverseAux s.value).reverse
    | _ => if s.quoted then unfinished else .ok s.value.reverse

/-- Reads a whole value. -/
def value (process known : Environment) (s : List Char) : Except Refusal String :=
  (valueFrom process known s 0 ⟨.ordinary, false, []⟩ s).map String.ofList

/-- Characters that start the name of a variable. -/
def startsName (c : Char) : Bool :=
  c.isAlpha || c == '_'

/-- Characters of the name of a variable. -/
def inName (c : Char) : Bool :=
  c.isAlphanum || c == '_' || c == '.'

/-- What a logical line sets, if anything. -/
def assignment (process known : Environment) (line : List Char) :
    Except Refusal (Option (String × String)) :=
  let refused (ahead : List Char) : Refusal :=
    .malformed (String.ofList line) (byteSize (Text.trimEnd line) - byteSize ahead)
  let isVacant (s : List Char) : Bool := s.isEmpty || s.head? == some '#'
  let name (s : List Char) : Except Refusal (List Char × List Char) :=
    match s.head? with
    | some c =>
      if startsName c then .ok (s.takeWhile inName, Text.trimStart (s.dropWhile inName))
      else .error (refused s)
    | none => .error (refused s)
  let equals (s : List Char) : Except Refusal (List Char) :=
    match s with
    | '=' :: rest => .ok (Text.trimStart rest)
    | _ => .error (refused s)
  let text := Text.trimStart (Text.trimEnd line)
  if isVacant text then .ok none
  else do
    let (key, rest) ← name text
    let (key, rest) ←
      if String.ofList key = "export" && rest.head? != some '=' then name rest else .ok (key, rest)
    let rest ← equals rest
    if isVacant rest then return some (String.ofList key, "")
    else return some (String.ofList key, ← value process known rest)

/-- Sets the variables of the lines that are left, one after the other, until one is refused. -/
def setAll (process : Environment) : Nat → List ByteArray → Environment → Except Refusal Environment
  | 0, _, known => .ok known
  | fuel + 1, lines, known => do
    match ← logicalLine .complete [] lines with
    | none => return known
    | some (line, rest) =>
      match ← assignment process known line with
      | some (name, value) => setAll process fuel rest (known.insert name value)
      | none => setAll process fuel rest known

/-- The variables of a file. -/
def read (process : Environment) (content : ByteArray) : Except Refusal Environment :=
  let lines := physicalLines content.toList
  setAll process (lines.length + 1) lines ∅

end Dotenv

end Upkeep
