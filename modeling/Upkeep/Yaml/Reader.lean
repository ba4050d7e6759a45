import Upkeep.Yaml.Node
import Upkeep.Yaml.Scalar

/-! From documents to values. Aliases are replaced by what they stand for, with a bound on how
often that may happen; collections may be nested 128 deep; a mapping holds each key once. -/
namespace Upkeep.Yaml

/-- Work on a document that counts the aliases it follows. -/
abbrev Following := StateT Nat (Except Fault)

namespace Document

/-- How many aliases may be followed in a document: a hundred for each step through it. -/
def aliasLimit (d : Document) : Nat :=
  100 * ((d.root.map Node.steps).getD 1)

/-- The node itself, or the node that an alias stands for. -/
def follow (d : Document) : Node → Following Node
  | .alias name seen => do
    let count ← get
    if d.aliasLimit ≤ count then throw .tooManyAliases
    else
      set (count + 1)
      match d.target? name seen with
      | some node => return node
      | none => throw .unknownAnchor
  | node => return node

end Document

namespace Value

/-- How many collections may be nested. -/
def depthLimit : Nat := 128

/-- A text without the mark in front of it, unless nothing would be left. -/
def unmarked : List Char → List Char
  | '!' :: c :: rest => c :: rest
  | s => s

/-- The name in a tag of the document's own making, which starts with `!`. More such marks may
follow; up to three of them are no part of the name, unless there is nothing else. -/
def localTag? (tag : String) : Option String :=
  match tag.toList with
  | '!' :: rest => some (String.ofList (unmarked (unmarked (unmarked ('!' :: rest)))))
  | _ => none

/-- The standard tag for a kind of scalar. -/
def standardTag (kind : String) : String :=
  "tag:yaml.org,2002:" ++ kind

/-- The value of a scalar under a tag that is not the document's own. -/
def ofTagged (tag content : String) : Except Fault Value :=
  let orRefuse (value : Option Value) : Except Fault Value :=
    match value with
    | some value => .ok value
    | none => .error .wrongTag
  if tag = standardTag "bool" then orRefuse ((Scalar.bool? content).map .bool)
  else if tag = standardTag "int" then do
    match Scalar.whole? content.toList with
    | some n => orRefuse (← Scalar.ofWhole? n)
    | none => .error .wrongTag
  else if tag = standardTag "float" then orRefuse ((Scalar.float? content.toList).map .float)
  else if tag = standardTag "null" then orRefuse (if Scalar.isNull content then some .null else none)
  else .ok (.text content)

/-- The value of a scalar. Only plain scalars without a tag, or with one of the document's own,
are anything but text. -/
def ofScalar (tag : Option String) (style : Style) (content : String) : Except Fault Value :=
  let untagged := if style = .plain then Scalar.ofPlain content else .ok (.text content)
  match tag with
  | none => untagged
  | some tag =>
    match localTag? tag with
    | some name => untagged.map (.tagged name)
    | none => ofTagged tag content

/-- A collection under its tag; tags that are not the document's own say nothing new. -/
def underTag (tag : Option String) (value : Value) : Value :=
  match tag.bind localTag? with
  | some name => .tagged name value
  | none => value

/-- Puts an entry at the end of a mapping that does not have its key yet. -/
def addEntry (entries : List (Value × Value)) (key value : Value) :
    Except Fault (List (Value × Value)) :=
  if entries.any fun entry => entry.1.sameKey key then .error .repeatedKey
  else .ok (entries ++ [(key, value)])

/-- The value of a node, given how to get the values inside a collection; none are to be had
where collections are nested too deeply. -/
def ofNodeWith (d : Document) (inside : Option (Node → Following Value)) (node : Node) :
    Following Value := do
  match ← d.follow node, inside with
  | .scalar properties style content, _ => ofScalar properties.tag style content
  | .sequence properties items, some inside =>
    return underTag properties.tag (.sequence (← items.mapM inside))
  | .mapping properties entries, some inside =>
    let entries ← entries.foldlM (fun known entry => do
      let key ← inside entry.1
      let value ← inside entry.2
      addEntry known key value) []
    return underTag properties.tag (.mapping entries)
  | .sequence _ _, none => throw .tooDeep
  | .mapping _ _, none => throw .tooDeep
  | .alias _ _, _ => throw .unknownAnchor

/-- The value of a node inside which collections may be nested `depth` deep. -/
def ofNode (d : Document) : Nat → Node → Following Value
  | 0 => ofNodeWith d none
  | depth + 1 => ofNodeWith d (some (ofNode d depth))

/-- The value of a document; one without content is null. -/
def ofDocument (d : Document) : Except Fault Value :=
  match d.root with
  | none => .ok .null
  | some root => (ofNode d depthLimit root).run' 0

/-- Reads the one document of a text. -/
def read (source : String) : Except Fault Value := do
  ofDocument (← Document.ofText source)

end Value

end Upkeep.Yaml
