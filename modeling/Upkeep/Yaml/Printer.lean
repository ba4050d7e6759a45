import Upkeep.Yaml.Printer.Scalar

/-! Writing values as YAML documents in block style. Collections are moved in by two columns,
except that the items of a sequence under a key stand in the key's own column. A collection
starts on the line of the mark before it where that mark is all the line holds. -/
namespace Upkeep.Yaml.Printer

/-- Where a node is written. -/
inductive Place where
  /-- At the start of the document. -/
  | root
  /-- As a key in front of a colon. -/
  | key
  /-- After the colon of a key on the same line. -/
  | afterKey
  /-- After the dash of a sequence. -/
  | afterDash
  /-- After a question mark or a colon that opens its line. -/
  | afterMark
  deriving DecidableEq, Repr

/-- Characters that a tag holds as they are. -/
def isTagLiteral (c : Char) : Bool :=
  isWord c ||
    [';', '/', '?', ':', '@', '&', '=', '+', '$', ',', '.', '~', '*', '\'', '(', ')', '[', ']'].contains c

/-- The characters of a tag, the others as escaped bytes. -/
def tagCharacters (s : List Char) : List Char :=
  s.flatMap fun c =>
    if isTagLiteral c then [c]
    else (String.singleton c).toUTF8.toList.flatMap fun byte => '%' :: hex 2 byte.toNat

/-- What a tag says after its `!`. -/
def tagSuffix (name : String) : List Char :=
  match name.toList with
  | '!' :: c :: rest => c :: rest
  | s => s

/-- A tag as it is written. -/
def tagText (name : String) : List Char :=
  if name = "!" then ['!', '<', '%', '2', '1', '>'] else '!' :: tagCharacters (tagSuffix name)

/-- The number of bytes of a tag. -/
def tagSize (tag : Option String) : Nat :=
  match tag with
  | none => 0
  | some name => if name = "!" then 1 else 1 + (String.ofList (tagSuffix name)).utf8ByteSize

/-- The text of a value that is no collection. -/
def leafText (indent : Nat) : Value → List Char
  | .null => ['n', 'u', 'l', 'l']
  | .bool b => (if b then "true" else "false").toList
  | .int n => (toString n).toList
  | .float x => (Scalar.floatText x).toList
  | .text s => scalarText indent s
  | .sequence _ => ['[', ']']
  | .mapping _ => ['\x7b', '\x7d']
  | .tagged _ _ => []

/-- How many bytes a simple key may have. -/
def keyLimit : Nat := 128

/-- Whether a key can stand in front of its colon on one line. -/
def isSimpleKey (tag : Option String) : Value → Bool
  | .text s => !s.toList.any isBreak && tagSize tag + s.utf8ByteSize ≤ keyLimit
  | .sequence items => items.isEmpty && tagSize tag ≤ keyLimit
  | .mapping entries => entries.isEmpty && tagSize tag ≤ keyLimit
  | .tagged name value => isSimpleKey (some name) value
  | leaf => tagSize tag + (leafText 0 leaf).length ≤ keyLimit

/-- Goes to a column of a new line, or of this line where nothing is written yet. The output is
held in reverse. -/
def newLine (column : Nat) (out : List Char) : List Char :=
  match out with
  | [] => spaces column
  | c :: _ => spaces column ++ (if isBreak c then out else '\n' :: out)

/-- Goes to the first entry of a collection, on the same line if that is possible. -/
def firstEntry (sameLine : Bool) (column : Nat) (out : List Char) : List Char :=
  if sameLine then ' ' :: out else newLine column out

/-- Writes the blank and the tag before a node. -/
def lead (place : Place) (tag : Option String) (collection : Bool) (out : List Char) : List Char :=
  let needsBlank := place != .root && place != .key
  match tag with
  | some name =>
    let out := (tagText name).reverseAux (if needsBlank then ' ' :: out else out)
    if collection then out else ' ' :: out
  | none => if needsBlank && !collection then ' ' :: out else out

mutual

/-- Writes a node inside a collection whose entries stand in column `column`. -/
def node (place : Place) (column : Nat) (tag : Option String) : Value → List Char → List Char
  | .tagged name value, out => node place column (some name) value out
  | .sequence (item :: items), out =>
    let sameLine := tag.isNone && (place == .afterDash || place == .afterMark)
    let inner :=
      if place == .root then 0
      else if place == .afterKey || place == .afterMark && tag.isSome then column
      else column + 2
    itemsFrom sameLine inner (item :: items) (lead place tag true out)
  | .mapping (entry :: entries), out =>
    let sameLine := tag.isNone && (place == .afterDash || place == .afterMark)
    let inner := if place == .root then 0 else column + 2
    entriesFrom sameLine inner (entry :: entries) (lead place tag true out)
  | leaf, out => (leafText (column + 2) leaf).reverseAux (lead place tag false out)

/-- Writes the items of a sequence. -/
def itemsFrom (sameLine : Bool) (column : Nat) : List Value → List Char → List Char
  | [], out => out
  | item :: items, out =>
    itemsFrom false column items
      (node .afterDash column none item ('-' :: firstEntry sameLine column out))

/-- Writes the entries of a mapping. -/
def entriesFrom (sameLine : Bool) (column : Nat) : List (Value × Value) → List Char → List Char
  | [], out => out
  | (key, value) :: entries, out =>
    let start := firstEntry sameLine column out
    entriesFrom false column entries
      (if isSimpleKey none key then
        node .afterKey column none value (':' :: node .key column none key start)
      else
        node .afterMark column none value
          (':' :: newLine column (node .afterMark column none key ('?' :: start))))

end

mutual

/-- Whether a value has a written form. A tag cannot stand directly inside a tag, and a mapping
whose only key is tagged, or is itself a mapping with a single entry, cannot be told from a
tagged value. -/
def isWritable : Value → Bool
  | .tagged _ (.tagged _ _) => false
  | .tagged _ (.mapping entries) => entriesWritable entries
  | .tagged _ value => isWritable value
  | .sequence items => itemsWritable items
  | .mapping [(.tagged _ _, _)] => false
  | .mapping [(.mapping [_], _)] => false
  | .mapping entries => entriesWritable entries
  | _ => true

/-- The same for the items of a sequence. -/
def itemsWritable : List Value → Bool
  | [] => true
  | item :: items => isWritable item && itemsWritable items

/-- The same for the entries of a mapping. -/
def entriesWritable : List (Value × Value) → Bool
  | [] => true
  | (key, value) :: entries => isWritable key && isWritable value && entriesWritable entries

end

end Printer

/-- The document of a value, ended by a line feed, unless the value has no written form. -/
def Value.print? (value : Value) : Option String :=
  if Printer.isWritable value then
    some (String.ofList (Printer.newLine 0 (Printer.node .root 0 none value [])).reverse)
  else none

end Upkeep.Yaml
