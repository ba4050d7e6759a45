import Upkeep.Yaml.Token.Scanner
import Upkeep.Yaml.Value

/-! The tree of a YAML document, as its tokens nest. Tags are resolved but not yet interpreted,
and aliases still point at their anchors. -/
namespace Upkeep.Yaml

/-- What may stand in front of a node. -/
structure Properties where
  /-- The name by which aliases refer to the node. -/
  anchor : Option String
  /-- The full tag. -/
  tag : Option String
  deriving Repr, DecidableEq

namespace Properties

/-- No properties. -/
def none : Properties :=
  ⟨.none, .none⟩

end Properties

/-- A node of a document. -/
inductive Node where
  /-- An alias by name, with the number of anchors that came before it. -/
  | alias (name : String) (seen : Nat)
  | scalar (properties : Properties) (style : Style) (text : String)
  | sequence (properties : Properties) (items : List Node)
  | mapping (properties : Properties) (entries : List (Node × Node))
  deriving Repr, Inhabited

/-- Where reading a tree stands: the tokens ahead and the number of anchors behind. -/
structure Reading where
  tokens : List Token
  anchors : Nat

namespace Reading

/-- The next token. -/
def peek (r : Reading) : Option Token :=
  r.tokens.head?

/-- Goes past a token. -/
def skip (r : Reading) : Reading :=
  { r with tokens := r.tokens.drop 1 }

/-- Whether the next token is one of some. -/
def atAny (r : Reading) (tokens : List Token) : Bool :=
  match r.peek with
  | some t => tokens.contains t
  | none => false

end Reading

namespace Node

/-- A node that is not written at all. -/
def absent : Node :=
  .scalar .none .plain ""

/-- The expansions of tag handles. -/
abbrev Handles := List (String × String)

/-- The full tag for a handle and a suffix. -/
def fullTag (handles : Handles) (handle suffix : String) : Except Fault String :=
  if handle.isEmpty then .ok suffix
  else
    match handles.lookup handle with
    | some expansion => .ok (expansion ++ suffix)
    | none => .error .badTag

/-- An anchor and a tag, in either order. -/
def properties (handles : Handles) (r : Reading) : Except Fault (Properties × Reading) :=
  match r.tokens with
  | .anchor name :: .tag handle suffix :: rest => do
    return (⟨some name, some (← fullTag handles handle suffix)⟩, ⟨rest, r.anchors + 1⟩)
  | .tag handle suffix :: .anchor name :: rest => do
    return (⟨some name, some (← fullTag handles handle suffix)⟩, ⟨rest, r.anchors + 1⟩)
  | .anchor name :: rest => .ok (⟨some name, none⟩, ⟨rest, r.anchors + 1⟩)
  | .tag handle suffix :: rest => do
    return (⟨none, some (← fullTag handles handle suffix)⟩, ⟨rest, r.anchors⟩)
  | _ => .ok (.none, r)

mutual

/-- The node ahead. A block node may be a block collection; where `dashes` is set, also a
sequence whose items are not indented. -/
def read (handles : Handles) (block dashes : Bool) : Nat → Reading → Except Fault (Node × Reading)
  | 0, _ => .error .unexpectedToken
  | fuel + 1, r =>
    match r.peek with
    | some (.alias name) => .ok (.alias name r.anchors, r.skip)
    | _ => do
      let (properties, r) ← properties handles r
      match r.peek with
      | some (.scalar style text) => return (.scalar properties style text, r.skip)
      | some .openSequence =>
        let (items, r) ← readFlowItems handles fuel true r.skip
        return (.sequence properties items, r)
      | some .openMapping =>
        let (entries, r) ← readFlowEntries handles fuel true r.skip
        return (.mapping properties entries, r)
      | some .item =>
        if dashes then
          let (items, r) ← readDashes handles fuel r
          return (.sequence properties items, r)
        else if properties == .none then .error .unexpectedToken
        else return (.scalar properties .plain "", r)
      | some .blockSequence =>
        if block then
          let (items, r) ← readItems handles fuel r.skip
          return (.sequence properties items, r)
        else if properties == .none then .error .unexpectedToken
        else return (.scalar properties .plain "", r)
      | some .blockMapping =>
        if block then
          let (entries, r) ← readEntries handles fuel r.skip
          return (.mapping properties entries, r)
        else if properties == .none then .error .unexpectedToken
        else return (.scalar properties .plain "", r)
      | _ =>
        if properties == .none then .error .unexpectedToken
        else return (.scalar properties .plain "", r)

/-- The node ahead, or an absent one before one of some tokens. -/
def readUnless (handles : Handles) (block dashes : Bool) (before : List Token) :
    Nat → Reading → Except Fault (Node × Reading)
  | 0, _ => .error .unexpectedToken
  | fuel + 1, r => if r.atAny before then .ok (absent, r) else read handles block dashes fuel r

/-- The items of a block sequence. -/
def readItems (handles : Handles) : Nat → Reading → Except Fault (List Node × Reading)
  | 0, _ => .error .unexpectedToken
  | fuel + 1, r =>
    match r.peek with
    | some .item => do
      let (item, r) ← readUnless handles true false [.item, .blockEnd] fuel r.skip
      let (items, r) ← readItems handles fuel r
      return (item :: items, r)
    | some .blockEnd => .ok ([], r.skip)
    | _ => .error .unexpectedToken

/-- The items of a sequence that is not indented; it ends where no dash follows. -/
def readDashes (handles : Handles) : Nat → Reading → Except Fault (List Node × Reading)
  | 0, _ => .error .unexpectedToken
  | fuel + 1, r =>
    match r.peek with
    | some .item => do
      let (item, r) ← readUnless handles true false [.item, .key, .value, .blockEnd] fuel r.skip
      let (items, r) ← readDashes handles fuel r
      return (item :: items, r)
    | _ => .ok ([], r)

/-- The entries of a block mapping. -/
def readEntries (handles : Handles) : Nat → Reading → Except Fault (List (Node × Node) × Reading)
  | 0, _ => .error .unexpectedToken
  | fuel + 1, r =>
    match r.peek with
    | some .key => do
      let (key, r) ← readUnless handles true true [.key, .value, .blockEnd] fuel r.skip
      let (value, r) ← match r.peek with
        | some .value => readUnless handles true true [.key, .value, .blockEnd] fuel r.skip
        | _ => .ok (absent, r)
      let (entries, r) ← readEntries handles fuel r
      return ((key, value) :: entries, r)
    | some .blockEnd => .ok ([], r.skip)
    | _ => .error .unexpectedToken

/-- The items of a flow sequence, of which all but the first follow a comma. A single entry
without braces is a mapping of its own. -/
def readFlowItems (handles : Handles) : Nat → Bool → Reading → Except Fault (List Node × Reading)
  | 0, _, _ => .error .unexpectedToken
  | fuel + 1, first, r =>
    if r.peek == some .closeSequence then .ok ([], r.skip)
    else if !first && r.peek != some .separator then .error .unexpectedToken
    else do
      let r := if first then r else r.skip
      match r.peek with
      | some .closeSequence => return ([], r.skip)
      | some .key =>
        let (key, r) ←
          if r.skip.atAny [.value, .separator, .closeSequence] then .ok (absent, r.skip.skip)
          else read handles false false fuel r.skip
        let (value, r) ← match r.peek with
          | some .value => readUnless handles false false [.separator, .closeSequence] fuel r.skip
          | _ => .ok (absent, r)
        let (items, r) ← readFlowItems handles fuel false r
        return (.mapping .none [(key, value)] :: items, r)
      | _ =>
        let (item, r) ← read handles false false fuel r
        let (items, r) ← readFlowItems handles fuel false r
        return (item :: items, r)

/-- The entries of a flow mapping, of which all but the first follow a comma. -/
def readFlowEntries (handles : Handles) :
    Nat → Bool → Reading → Except Fault (List (Node × Node) × Reading)
  | 0, _, _ => .error .unexpectedToken
  | fuel + 1, first, r =>
    if r.peek == some .closeMapping then .ok ([], r.skip)
    else if !first && r.peek != some .separator then .error .unexpectedToken
    else do
      let r := if first then r else r.skip
      match r.peek with
      | some .closeMapping => return ([], r.skip)
      | some .key =>
        let (key, r) ← readUnless handles false false [.value, .separator, .closeMapping] fuel r.skip
        let (value, r) ← match r.peek with
          | some .value => readUnless handles false false [.separator, .closeMapping] fuel r.skip
          | _ => .ok (absent, r)
        let (entries, r) ← readFlowEntries handles fuel false r
        return ((key, value) :: entries, r)
      | _ =>
        let (key, r) ← read handles false false fuel r
        let (entries, r) ← readFlowEntries handles fuel false r
        return ((key, absent) :: entries, r)

end

mutual

/-- The number of steps in which a node is gone through: one for a scalar or an alias, one for
the start and one for the end of a collection. -/
def steps : Node → Nat
  | .alias _ _ => 1
  | .scalar _ _ _ => 1
  | .sequence _ items => 2 + stepsOfItems items
  | .mapping _ entries => 2 + stepsOfEntries entries

/-- The steps of the items of a sequence. -/
def stepsOfItems : List Node → Nat
  | [] => 0
  | item :: items => steps item + stepsOfItems items

/-- The steps of the entries of a mapping. -/
def stepsOfEntries : List (Node × Node) → Nat
  | [] => 0
  | (key, value) :: entries => steps key + steps value + stepsOfEntries entries

end

mutual

/-- The anchored nodes in the order in which they start. -/
def anchored (node : Node) : List (String × Node) :=
  match node with
  | .alias _ _ => []
  | .scalar properties _ _ => (properties.anchor.map fun name => (name, node)).toList
  | .sequence properties items =>
    (properties.anchor.map fun name => (name, node)).toList ++ anchoredInItems items
  | .mapping properties entries =>
    (properties.anchor.map fun name => (name, node)).toList ++ anchoredInEntries entries

/-- The anchored nodes among the items of a sequence. -/
def anchoredInItems : List Node → List (String × Node)
  | [] => []
  | item :: items => anchored item ++ anchoredInItems items

/-- The anchored nodes among the entries of a mapping. -/
def anchoredInEntries : List (Node × Node) → List (String × Node)
  | [] => []
  | (key, value) :: entries => anchored key ++ anchored value ++ anchoredInEntries entries

end

mutual

/-- Whether every alias has its anchor among those that come before it. -/
def aliasesKnown (names : List String) : Node → Bool
  | .alias name seen => (names.take seen).contains name
  | .scalar _ _ _ => true
  | .sequence _ items => aliasesKnownInItems names items
  | .mapping _ entries => aliasesKnownInEntries names entries

/-- The same for the items of a sequence. -/
def aliasesKnownInItems (names : List String) : List Node → Bool
  | [] => true
  | item :: items => aliasesKnown names item && aliasesKnownInItems names items

/-- The same for the entries of a mapping. -/
def aliasesKnownInEntries (names : List String) : List (Node × Node) → Bool
  | [] => true
  | (key, value) :: entries =>
    aliasesKnown names key && aliasesKnown names value && aliasesKnownInEntries names entries

end

end Node

/-- A document: its root node, if it has any content, and the nodes that aliases can reach. -/
structure Document where
  /-- The root. -/
  root : Option Node
  /-- The anchored nodes with their names, in the order in which they start. -/
  anchored : List (String × Node)
  deriving Inhabited

namespace Document

/-- The slots that anchors with these names are kept in. Each goes to the slot whose number is
the count of different names before it, so an anchor that uses a name again takes a slot that
the next new name takes as well. -/
def slots (names : List String) : List Nat :=
  go names []
where
  go : List String → List String → List Nat
    | [], _ => []
    | name :: rest, known => known.length :: go rest (if known.contains name then known else name :: known)

/-- The names of the anchors. -/
def names (d : Document) : List String :=
  d.anchored.map (·.1)

/-- The document of a tree. -/
def ofNode (root : Node) : Except Fault Document :=
  let d : Document := ⟨some root, root.anchored⟩
  if root.aliasesKnown d.names then .ok d else .error .unknownAnchor

/-- The node that an alias stands for when `seen` anchors came before it: the last one put into
the slot that its name had then. -/
def target? (d : Document) (name : String) (seen : Nat) : Option Node :=
  let slots := slots d.names
  (((d.names.zip slots).take seen).reverse.lookup name).bind fun slot =>
    (slots.zip (d.anchored.map (·.2))).reverse.lookup slot

/-- The directives before a document, and the tokens after them. -/
def directives : List Token → Option (Nat × Nat) × Node.Handles × List Token × Bool
  | tokens => go tokens none [] true
where
  go : List Token → Option (Nat × Nat) → Node.Handles → Bool →
      Option (Nat × Nat) × Node.Handles × List Token × Bool
    | .version major minor :: rest, version, handles, valid =>
      go rest (some (major, minor)) handles
        (valid && version.isNone && major == 1 && (minor == 1 || minor == 2))
    | .handle handle expansion :: rest, version, handles, valid =>
      go rest version (handles ++ [(handle, expansion)]) (valid && (handles.lookup handle).isNone)
    | tokens, version, handles, valid => (version, handles, tokens, valid)

/-- The tag handles that every document has, unless it gives them another expansion. -/
def standardHandles : Node.Handles :=
  [("!", "!"), ("!!", "tag:yaml.org,2002:")]

/-- The one document of some tokens; none at all is a document without content. -/
def ofTokens (tokens : List Token) : Except Fault Document :=
  let (version, handles, rest, valid) := directives tokens
  let explicit := version.isSome || !handles.isEmpty || rest.head? == some .documentStart
  if !valid then .error .badDirective
  else if tokens.isEmpty then .ok ⟨none, []⟩
  else if explicit && rest.head? != some .documentStart then .error .unexpectedToken
  else do
    let r : Reading := ⟨if explicit then rest.drop 1 else rest, 0⟩
    let contentless := explicit && (r.peek.isNone ||
      match r.peek with
      | some (.version _ _) | some (.handle _ _) | some .documentStart | some .documentEnd => true
      | _ => false)
    let (root, r) ←
      if contentless then .ok (Node.absent, r)
      else Node.read (handles ++ standardHandles) true false (2 * r.tokens.length + 2) r
    if r.tokens.all (· == .documentEnd) then ofNode root else .error .secondDocument

/-- The one document of a text. -/
def ofText (text : String) : Except Fault Document := do
  ofTokens (← Token.ofText text)

end Document

end Upkeep.Yaml
