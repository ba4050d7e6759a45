import Upkeep.Proofs.Yaml.BlockScalars
import Upkeep.Proofs.Yaml.PlainTexts
import Upkeep.Proofs.Yaml.Tags

/-! What is written for a value, in the order in which it is read: every node comes with its last line
break, and the blanks that move the next line in come before that line. -/
namespace Upkeep.Yaml.Printer

/-- A value without entries below it, and without a tag. -/
def isLeaf : Value → Bool
  | .sequence (_ :: _) => false
  | .mapping (_ :: _) => false
  | .tagged _ _ => false
  | _ => true

/-- The blank and the tag in front of a node. -/
def leadText (place : Place) (tag : Option String) (collection : Bool) : List Char :=
  let blank := if place != .root && place != .key then [' '] else []
  match tag with
  | some name => blank ++ (tagText name ++ (if collection then [] else [' ']))
  | none => if collection then [] else blank

/-- Whether the items of a sequence stand in the column of the collection around it. -/
def isDashed (place : Place) (tag : Option String) : Bool :=
  place == .afterKey || place == .afterMark && tag.isSome

/-- Whether a collection starts on the line of the mark before it. -/
def startsHere (place : Place) (tag : Option String) : Bool :=
  tag.isNone && (place == .afterDash || place == .afterMark)

/-- What stands before the first entry of a collection. -/
def opening (sameLine : Bool) (column : Nat) : List Char :=
  if sameLine then [' '] else '\n' :: spaces column

/-- What moves the next entry in, if there is one. -/
def between {α : Type} (column : Nat) (more : List α) : List Char :=
  if more.isEmpty then [] else spaces column

/-- A key on the line of its colon. -/
def keyText (column : Nat) (tag : Option String) : Value → List Char
  | .tagged name value => keyText column (some name) value
  | leaf => leadText .key tag false ++ leafText (column + 2) leaf

/-- A scalar with its last line break. -/
def leafLine (column : Nat) (leaf : Value) : List Char :=
  leafText column leaf ++ Scan.closing (leafText column leaf)

mutual

/-- A node with its last line break. -/
def nodeText (place : Place) (column : Nat) (tag : Option String) : Value → List Char
  | .tagged name value => nodeText place column (some name) value
  | .sequence (item :: items) =>
    let inner := if isDashed place tag then column else column + 2
    leadText place tag true ++ (opening (startsHere place tag) inner ++ itemsText inner (item :: items))
  | .mapping (entry :: entries) =>
    leadText place tag true ++ (opening (startsHere place tag) (column + 2) ++
      entriesText (column + 2) (entry :: entries))
  | leaf => leadText place tag false ++ leafLine (column + 2) leaf

/-- The items of a sequence, from the first dash on. -/
def itemsText (column : Nat) : List Value → List Char
  | [] => []
  | item :: items =>
    '-' :: (nodeText .afterDash column none item ++ (between column items ++ itemsText column items))

/-- The entries of a mapping, from the first key on. -/
def entriesText (column : Nat) : List (Value × Value) → List Char
  | [] => []
  | (key, value) :: entries =>
    (if isSimpleKey none key then keyText column none key ++ ':' :: nodeText .afterKey column none value
    else '?' :: (nodeText .afterMark column none key ++
      (spaces column ++ ':' :: nodeText .afterMark column none value))) ++
      (between column entries ++ entriesText column entries)

end

/-! ### Tokens -/

/-- The token of a tag. -/
def tagTokens (tag : Option String) : List Token :=
  (tag.map Scan.tagToken).toList

/-- Where a key is written. -/
def placeOfKey (key : Value) : Place :=
  if isSimpleKey none key then .key else .afterMark

/-- Where the value under a key is written. -/
def placeUnder (key : Value) : Place :=
  if isSimpleKey none key then .afterKey else .afterMark

/-- The tokens of a value without entries below it. -/
def leafTokens : Value → List Token
  | .null => [.scalar .plain "null"]
  | .bool b => [.scalar .plain (if b then "true" else "false")]
  | .int n => [.scalar .plain (toString n)]
  | .float x => [.scalar .plain (Scalar.floatText x)]
  | .text s => [.scalar (styleOf s) s]
  | .sequence _ => [.openSequence, .closeSequence]
  | .mapping _ => [.openMapping, .closeMapping]
  | .tagged _ _ => []

mutual

/-- The tokens of a node. -/
def nodeTokens (place : Place) (tag : Option String) : Value → List Token
  | .tagged name value => nodeTokens place (some name) value
  | .sequence (item :: items) =>
    tagTokens tag ++ (if isDashed place tag then itemsTokens (item :: items)
      else .blockSequence :: (itemsTokens (item :: items) ++ [.blockEnd]))
  | .mapping (entry :: entries) =>
    tagTokens tag ++ .blockMapping :: (entriesTokens (entry :: entries) ++ [.blockEnd])
  | leaf => tagTokens tag ++ leafTokens leaf

/-- The tokens of the items of a sequence. -/
def itemsTokens : List Value → List Token
  | [] => []
  | item :: items => .item :: (nodeTokens .afterDash none item ++ itemsTokens items)

/-- The tokens of the entries of a mapping. -/
def entriesTokens : List (Value × Value) → List Token
  | [] => []
  | (key, value) :: entries =>
    .key :: (nodeTokens (placeOfKey key) none key ++
      .value :: (nodeTokens (placeUnder key) none value ++ entriesTokens entries))

end

/-! ### Leaves -/

/-- A leaf between quotes or brackets, and its tokens. -/
inductive Enclosed (column : Nat) : List Char → List Token → Prop
  | single (s : String) : fitsSingle s.toList = true → '\n' ∉ s.toList →
    Enclosed column ('\'' :: (singleInside column false s.toList ++ ['\''])) [.scalar .singleQuoted s]
  | double (s : String) :
    Enclosed column ('"' :: (s.toList.flatMap doubleCharacter ++ ['"'])) [.scalar .doubleQuoted s]
  | sequence : Enclosed column ['[', ']'] [.openSequence, .closeSequence]
  | mapping : Enclosed column ['\x7b', '\x7d'] [.openMapping, .closeMapping]

/-- The ways in which a leaf is written, and its tokens. -/
inductive Written (column : Nat) : List Char → List Token → Prop
  | plain (s : String) : s ≠ "" → fitsPlain s.toList = true → Written column s.toList [.scalar .plain s]
  | enclosed {text : List Char} {tokens : List Token} : Enclosed column text tokens → Written column text tokens
  | literal (s : String) : fitsLiteral s.toList = true →
    Written column ('|' :: (literalHints s.toList ++ '\n' :: literalLines column true s.toList)) [.scalar .literal s]

theorem floatText_of_isNaN {x : Binary64} (nan : x.isNaN) : Scalar.floatText x = ".nan" := by
  simp [Scalar.floatText, nan]

theorem fitsPlain_floatText (x : Binary64) :
    Scalar.floatText x ≠ "" ∧ fitsPlain (Scalar.floatText x).toList = true := by
  by_cases nan : x.isNaN
  · rw [floatText_of_isNaN nan]
    exact ⟨by decide, rfl⟩
  · obtain ⟨reads, fits⟩ := ofPlain_floatText (x := x) (fun isNaN => absurd isNaN nan)
    refine ⟨fun empty => ?_, fits⟩
    rw [empty] at reads
    cases reads

/-- The style of a text, and what the text is like where the style does not hold all texts. -/
theorem styleOf_cases (s : String) :
    styleOf s = .literal ∧ '\n' ∈ s.toList ∧ fitsLiteral s.toList = true ∨
      styleOf s = .plain ∧ Scalar.readsAsText s = true ∧ fitsPlain s.toList = true ∨
      styleOf s = .singleQuoted ∧ '\n' ∉ s.toList ∧ fitsSingle s.toList = true ∨ styleOf s = .doubleQuoted := by
  have lines : s.toList.contains '\n' = true ↔ '\n' ∈ s.toList := List.contains_iff_mem
  simp only [styleOf]
  split
  · split <;> simp_all
  · split
    · simp_all
    · split <;> simp_all

theorem written_text (column : Nat) (s : String) : Written column (scalarText column s) [.scalar (styleOf s) s] := by
  unfold scalarText
  obtain ⟨style, -, fits⟩ | ⟨style, reads, fits⟩ | ⟨style, noLineFeed, fits⟩ | style := styleOf_cases s
  · rw [style]
    exact .literal s fits
  · rw [style]
    refine .plain s ?_ fits
    rintro rfl
    cases reads
  · rw [style]
    exact .enclosed (.single s fits noLineFeed)
  · rw [style]
    exact .enclosed (.double s)

theorem written_leaf (column : Nat) {leaf : Value} (isLeaf : isLeaf leaf = true) :
    Written column (leafText column leaf) (leafTokens leaf) := by
  cases leaf with
  | null => exact .plain "null" (by decide) rfl
  | bool b => cases b <;> exact .plain _ (by decide) rfl
  | int n =>
    refine .plain (toString n) (fun empty => ?_) (fitsPlain_toString n)
    have whole := whole?_toString n
    rw [empty] at whole
    cases whole
  | float x => exact .plain _ (fitsPlain_floatText x).1 (fitsPlain_floatText x).2
  | text s => exact written_text column s
  | sequence items => exact .enclosed .sequence
  | mapping entries => exact .enclosed .mapping
  | tagged _ _ => cases isLeaf

/-! ### What the printer does -/

/-- Ends the line. The output is held in reverse. -/
def endLine (out : List Char) : List Char :=
  match out with
  | [] => []
  | c :: _ => if isBreak c then out else '\n' :: out

theorem newLine_eq (column : Nat) (out : List Char) : newLine column out = spaces column ++ endLine out := by
  cases out <;> simp [newLine, endLine]

theorem lead_eq (place : Place) (tag : Option String) (collection : Bool) (out : List Char) :
    lead place tag collection out = (leadText place tag collection).reverse ++ out := by
  unfold lead leadText
  cases tag <;> cases collection <;> cases place <;> simp [List.reverseAux_eq]

theorem onLine_tagText (name : String) : Spot.OnLine (tagText name) := by
  unfold tagText
  split
  · simp [Spot.OnLine, isBreak]
  · exact .cons rfl (Scan.onLine_tagCharacters _)

/-- The output ends within a line. -/
def Unended (out : List Char) : Prop :=
  ∃ c rest, out = c :: rest ∧ isBreak c = false

theorem Unended.append {out s : List Char} (unended : Unended out) (onLine : Spot.OnLine s) :
    Unended (s.reverse ++ out) := by
  obtain rfl | ⟨before, c, rfl⟩ := List.eq_nil_or_concat s
  · exact unended
  · exact ⟨c, before.reverse ++ out, by simp, onLine c (by simp)⟩

theorem onLine_leadText (place : Place) (tag : Option String) (collection : Bool) :
    Spot.OnLine (leadText place tag collection) := by
  have blank (b : Bool) : Spot.OnLine (if b then [' '] else []) := by
    cases b
    · exact Spot.onLine_nil
    · exact Spot.onLine_singleton rfl
  cases tag with
  | none =>
    cases collection
    · exact blank _
    · exact Spot.onLine_nil
  | some name =>
    refine (blank _).append ((onLine_tagText name).append ?_)
    cases collection
    · exact Spot.onLine_singleton rfl
    · exact Spot.onLine_nil

theorem Unended.lead {out : List Char} (unended : Unended out) (place : Place) (tag : Option String)
    (collection : Bool) : Unended (lead place tag collection out) := by
  rw [lead_eq]
  exact unended.append (onLine_leadText place tag collection)

theorem unended_cons {c : Char} (noBreak : isBreak c = false) (out : List Char) : Unended (c :: out) :=
  ⟨c, out, rfl, noBreak⟩

theorem firstEntry_eq {out : List Char} (unended : Unended out) (sameLine : Bool) (column : Nat) :
    firstEntry sameLine column out = (opening sameLine column).reverse ++ out := by
  obtain ⟨c, rest, rfl, noBreak⟩ := unended
  cases sameLine <;> simp [firstEntry, opening, newLine, noBreak, spaces]

theorem Written.nonempty {column : Nat} {s : List Char} {tokens : List Token} (written : Written column s tokens) :
    s ≠ [] := by
  cases written with
  | plain s nonempty _ => exact mt String.toList_eq_nil_iff.mp nonempty
  | enclosed enclosed => cases enclosed <;> exact List.cons_ne_nil _ _
  | literal s _ => exact List.cons_ne_nil _ _

theorem endLine_append {s : List Char} (nonempty : s ≠ []) (out : List Char) :
    endLine (s.reverse ++ out) = (s ++ Scan.closing s).reverse ++ out := by
  obtain ⟨before, c, rfl⟩ := (List.eq_nil_or_concat s).resolve_left nonempty
  by_cases lineBreak : isBreak c = true <;> simp [endLine, Scan.closing, lineBreak]

theorem node_leaf {leaf : Value} (isLeaf : isLeaf leaf = true) (place : Place) (column : Nat) (tag : Option String)
    (out : List Char) :
    node place column tag leaf out = (leafText (column + 2) leaf).reverse ++ lead place tag false out := by
  match leaf, isLeaf with
  | .null, _ | .bool _, _ | .int _, _ | .float _, _ | .text _, _ | .sequence [], _ | .mapping [], _ =>
    rw [node, List.reverseAux_eq]
    all_goals simp

theorem nodeText_leaf {leaf : Value} (isLeaf : isLeaf leaf = true) (place : Place) (column : Nat) (tag : Option String) :
    nodeText place column tag leaf = leadText place tag false ++ leafLine (column + 2) leaf := by
  match leaf, isLeaf with
  | .null, _ | .bool _, _ | .int _, _ | .float _, _ | .text _, _ | .sequence [], _ | .mapping [], _ =>
    rw [nodeText]
    all_goals simp

theorem keyText_leaf {leaf : Value} (isLeaf : isLeaf leaf = true) (column : Nat) (tag : Option String) :
    keyText column tag leaf = leadText .key tag false ++ leafText (column + 2) leaf := by
  match leaf, isLeaf with
  | .null, _ | .bool _, _ | .int _, _ | .float _, _ | .text _, _ | .sequence [], _ | .mapping [], _ =>
    rw [keyText]
    all_goals simp

theorem key_eq (key : Value) (tag tag' : Option String) (simple : isSimpleKey tag' key = true) (column : Nat)
    (out : List Char) : node .key column tag key out = (keyText column tag key).reverse ++ out := by
  match key with
  | .tagged name value =>
    rw [node, keyText]
    exact key_eq value (some name) (some name) simple column out
  | .sequence (_ :: _) => cases simple
  | .mapping (_ :: _) => cases simple
  | .null | .bool _ | .int _ | .float _ | .text _ | .sequence [] | .mapping [] =>
    rw [node_leaf rfl, keyText_leaf rfl, lead_eq]
    simp

theorem newLine_reverse (column : Nat) (out : List Char) : newLine column out = (spaces column).reverse ++ endLine out := by
  rw [newLine_eq, spaces, List.reverse_replicate]

theorem firstEntry_false (column : Nat) (out : List Char) :
    firstEntry false column out = (spaces column).reverse ++ endLine out :=
  newLine_reverse column out

mutual

theorem node_eq (place : Place) (inside : place ≠ .root) (column : Nat) (tag : Option String) (value : Value)
    {out : List Char} (unended : Unended out) :
    endLine (node place column tag value out) = (nodeText place column tag value).reverse ++ out := by
  have notRoot : (place == .root) = false := beq_eq_false_iff_ne.mpr inside
  match value with
  | .tagged name value =>
    rw [node, nodeText]
    exact node_eq place inside column (some name) value unended
  | .sequence (item :: items) =>
    rw [node, nodeText, items_eq _ _ _ (List.cons_ne_nil _ _), firstEntry_eq (unended.lead _ _ _), lead_eq]
    simp [notRoot, isDashed, startsHere]
  | .mapping (entry :: entries) =>
    rw [node, nodeText, entries_eq _ _ _ (List.cons_ne_nil _ _), firstEntry_eq (unended.lead _ _ _), lead_eq]
    simp [notRoot, startsHere]
  | .null | .bool _ | .int _ | .float _ | .text _ | .sequence [] | .mapping [] =>
    rw [node_leaf rfl, nodeText_leaf rfl, endLine_append (written_leaf _ rfl).nonempty, lead_eq, leafLine]
    simp

theorem items_eq (sameLine : Bool) (column : Nat) (items : List Value) (nonempty : items ≠ []) (out : List Char) :
    endLine (itemsFrom sameLine column items out) =
      (itemsText column items).reverse ++ firstEntry sameLine column out := by
  match items with
  | [] => exact absurd rfl nonempty
  | item :: items =>
    have first := node_eq .afterDash (by decide) column none item
      (unended_cons (c := '-') (by decide) (firstEntry sameLine column out))
    rw [itemsFrom, itemsText]
    by_cases last : items = []
    · subst last
      rw [itemsFrom, first]
      simp [between, itemsText]
    · rw [items_eq false column items last, firstEntry_false, first]
      simp [between, last]

theorem entries_eq (sameLine : Bool) (column : Nat) (entries : List (Value × Value)) (nonempty : entries ≠ [])
    (out : List Char) :
    endLine (entriesFrom sameLine column entries out) =
      (entriesText column entries).reverse ++ firstEntry sameLine column out := by
  match entries with
  | [] => exact absurd rfl nonempty
  | (key, value) :: entries =>
    have onLine (out : List Char) := node_eq .afterKey (by decide) column none value
      (unended_cons (c := ':') (by decide) out)
    have marked (out : List Char) := node_eq .afterMark (by decide) column none value
      (unended_cons (c := ':') (by decide) out)
    have question := node_eq .afterMark (by decide) column none key
      (unended_cons (c := '?') (by decide) (firstEntry sameLine column out))
    rw [entriesFrom, entriesText]
    by_cases last : entries = []
    · subst last
      rw [entriesFrom]
      split
      · rename_i simple
        rw [onLine, key_eq key none none simple]
        simp [between, entriesText]
      · rw [marked, newLine_reverse, question]
        simp [between, entriesText]
    · rw [entries_eq false column entries last, firstEntry_false]
      split
      · rename_i simple
        rw [onLine, key_eq key none none simple]
        simp [between, last]
      · rw [marked, newLine_reverse, question]
        simp [between, last]

end

/-- The document of a mapping with entries. -/
theorem print?_mapping {entries : List (Value × Value)} (nonempty : entries ≠ [])
    (writable : isWritable (.mapping entries) = true) :
    (Value.mapping entries).print? = some (String.ofList (entriesText 0 entries)) := by
  have written : newLine 0 (node .root 0 none (.mapping entries) []) = (entriesText 0 entries).reverse := by
    match entries with
    | entry :: entries =>
      rw [newLine_reverse, node, entries_eq _ _ _ nonempty]
      simp [lead, firstEntry, newLine, spaces]
  rw [Value.print?, if_pos writable, written, List.reverse_reverse]

theorem nodeTokens_leaf {leaf : Value} (isLeaf : isLeaf leaf = true) (place : Place) (tag : Option String) :
    nodeTokens place tag leaf = tagTokens tag ++ leafTokens leaf := by
  match leaf, isLeaf with
  | .null, _ | .bool _, _ | .int _, _ | .float _, _ | .text _, _ | .sequence [], _ | .mapping [], _ =>
    rw [nodeTokens]
    all_goals simp

/-! ### Ends of lines -/

/-- The text ends with a line break. -/
def EndsLine (s : List Char) : Prop :=
  ∃ before c, s = before ++ [c] ∧ isBreak c = true

theorem EndsLine.append (s : List Char) {t : List Char} (ends : EndsLine t) : EndsLine (s ++ t) := by
  obtain ⟨before, c, rfl, lineBreak⟩ := ends
  exact ⟨s ++ before, c, by simp, lineBreak⟩

theorem EndsLine.cons (c : Char) {s : List Char} (ends : EndsLine s) : EndsLine (c :: s) :=
  ends.append [c]

theorem endsLine_leafLine (column : Nat) (leaf : Value) : EndsLine (leafLine column leaf) := by
  obtain ⟨c, last, lineBreak⟩ := Scan.getLast?_closing (leafText column leaf)
  obtain ⟨before, form⟩ := List.getLast?_eq_some_iff.mp last
  exact ⟨before, c, form, lineBreak⟩

/-- Behind a line break and blanks, the column is their number. -/
theorem EndsLine.column_after {s : List Char} (ends : EndsLine s) (p : Spot) (n : Nat) :
    (p.after (s ++ List.replicate n ' ')).column = n := by
  obtain ⟨before, c, rfl, lineBreak⟩ := ends
  rw [List.append_assoc, Spot.after_append, List.singleton_append,
    Spot.column_after_break lineBreak (Spot.onLine_replicate n), List.length_replicate]

mutual

theorem endsLine_nodeText (place : Place) (column : Nat) (tag : Option String) (value : Value) :
    EndsLine (nodeText place column tag value) := by
  match value with
  | .tagged name value =>
    rw [nodeText]
    exact endsLine_nodeText place column (some name) value
  | .sequence (item :: items) =>
    rw [nodeText]
    exact ((endsLine_itemsText _ (item :: items) (List.cons_ne_nil _ _)).append _).append _
  | .mapping (entry :: entries) =>
    rw [nodeText]
    exact ((endsLine_entriesText _ (entry :: entries) (List.cons_ne_nil _ _)).append _).append _
  | .null | .bool _ | .int _ | .float _ | .text _ | .sequence [] | .mapping [] =>
    rw [nodeText_leaf rfl]
    exact (endsLine_leafLine _ _).append _

theorem endsLine_itemsText (column : Nat) (items : List Value) (nonempty : items ≠ []) :
    EndsLine (itemsText column items) := by
  match items with
  | [] => exact absurd rfl nonempty
  | item :: items =>
    rw [itemsText]
    by_cases last : items = []
    · simpa [last, between, itemsText] using (endsLine_nodeText .afterDash column none item).cons '-'
    · exact (((endsLine_itemsText column items last).append _).append _).cons '-'

theorem endsLine_entriesText (column : Nat) (entries : List (Value × Value)) (nonempty : entries ≠ []) :
    EndsLine (entriesText column entries) := by
  match entries with
  | [] => exact absurd rfl nonempty
  | (key, value) :: entries =>
    rw [entriesText]
    by_cases last : entries = []
    · simp only [last, between, entriesText, List.isEmpty_nil, ↓reduceIte, List.append_nil]
      split
      · exact ((endsLine_nodeText .afterKey column none value).cons ':').append _
      · exact ((((endsLine_nodeText .afterMark column none value).cons ':').append _).append _).cons '?'
    · exact ((endsLine_entriesText column entries last).append _).append _

end

end Upkeep.Yaml.Printer
