import Upkeep.Proofs.Yaml.Layout
import Upkeep.Yaml.Node

/-! The tokens of a written value nest as the value does: the tree that is read from them has a node for
each part of the value, with its tag, and no anchors or aliases. -/
namespace Upkeep.Yaml

namespace Node

/-- The properties of a node with a tag or without one. -/
def propertiesOf (tag : Option String) : Properties :=
  ⟨none, tag.map Scan.fullTag⟩

mutual

/-- The node for a value. -/
def ofValue (tag : Option String) : Value → Node
  | .null => .scalar (propertiesOf tag) .plain "null"
  | .bool b => .scalar (propertiesOf tag) .plain (if b then "true" else "false")
  | .int n => .scalar (propertiesOf tag) .plain (toString n)
  | .float x => .scalar (propertiesOf tag) .plain (Scalar.floatText x)
  | .text s => .scalar (propertiesOf tag) (Printer.styleOf s) s
  | .sequence items => .sequence (propertiesOf tag) (ofItems items)
  | .mapping entries => .mapping (propertiesOf tag) (ofEntries entries)
  | .tagged name value => ofValue (some name) value

/-- The nodes for the items of a sequence. -/
def ofItems : List Value → List Node
  | [] => []
  | item :: items => ofValue none item :: ofItems items

/-- The nodes for the entries of a mapping. -/
def ofEntries : List (Value × Value) → List (Node × Node)
  | [] => []
  | (key, value) :: entries => (ofValue none key, ofValue none value) :: ofEntries entries

end

open Printer Document

section Steps

variable {fuel anchors : Nat} {block dashes : Bool} {rest : List Token}

/-- A tag is the only property that is written. -/
theorem properties_tagTokens (tag : Option String) (noAnchor : ∀ name, rest.head? ≠ some (.anchor name))
    (noTag : ∀ handle suffix, rest.head? ≠ some (.tag handle suffix)) :
    properties standardHandles ⟨tagTokens tag ++ rest, anchors⟩ = .ok (propertiesOf tag, ⟨rest, anchors⟩) := by
  cases tag with
  | none =>
    unfold properties
    split <;> simp_all [tagTokens, propertiesOf, Properties.none]
  | some name =>
    obtain ⟨handle, suffix, form, full⟩ := Scan.fullTag_tagToken name
    simp only [tagTokens, Option.map_some, Option.toList_some, form, List.cons_append, List.nil_append]
    cases rest with
    | nil => simp [properties, full, propertiesOf]
    | cons token rest =>
      cases token with
      | anchor name => exact absurd rfl (noAnchor name)
      | _ => simp [properties, full, propertiesOf]

theorem peek_tagTokens (tag : Option String) {token : Token} (noAlias : ∀ name, token ≠ .alias name) (name : String) :
    Reading.peek ⟨tagTokens tag ++ token :: rest, anchors⟩ ≠ some (.alias name) := by
  cases tag with
  | none => simpa [Reading.peek, tagTokens] using noAlias name
  | some tag =>
    obtain ⟨handle, suffix, form, -⟩ := Scan.fullTag_tagToken tag
    simp [Reading.peek, tagTokens, form]

theorem read_scalar (tag : Option String) (style : Style) (text : String) :
    read standardHandles block dashes (fuel + 1) ⟨tagTokens tag ++ .scalar style text :: rest, anchors⟩ =
      .ok (.scalar (propertiesOf tag) style text, ⟨rest, anchors⟩) := by
  rw [read]
  split
  · exact absurd ‹_› (peek_tagTokens tag (by simp) _)
  · rw [properties_tagTokens tag (by simp) (by simp)]
    rfl

theorem read_emptySequence (tag : Option String) :
    read standardHandles block dashes (fuel + 2) ⟨tagTokens tag ++ .openSequence :: .closeSequence :: rest, anchors⟩ =
      .ok (.sequence (propertiesOf tag) [], ⟨rest, anchors⟩) := by
  rw [read]
  split
  · exact absurd ‹_› (peek_tagTokens tag (by simp) _)
  · rw [properties_tagTokens tag (by simp) (by simp)]
    rfl

theorem read_emptyMapping (tag : Option String) :
    read standardHandles block dashes (fuel + 2) ⟨tagTokens tag ++ .openMapping :: .closeMapping :: rest, anchors⟩ =
      .ok (.mapping (propertiesOf tag) [], ⟨rest, anchors⟩) := by
  rw [read]
  split
  · exact absurd ‹_› (peek_tagTokens tag (by simp) _)
  · rw [properties_tagTokens tag (by simp) (by simp)]
    rfl

theorem read_blockSequence (tag : Option String) :
    read standardHandles true dashes (fuel + 1) ⟨tagTokens tag ++ .blockSequence :: rest, anchors⟩ =
      (readItems standardHandles fuel ⟨rest, anchors⟩).map fun (items, r) =>
        (.sequence (propertiesOf tag) items, r) := by
  rw [read]
  split
  · exact absurd ‹_› (peek_tagTokens tag (by simp) _)
  · rw [properties_tagTokens tag (by simp) (by simp)]
    rfl

theorem read_blockMapping (tag : Option String) :
    read standardHandles true dashes (fuel + 1) ⟨tagTokens tag ++ .blockMapping :: rest, anchors⟩ =
      (readEntries standardHandles fuel ⟨rest, anchors⟩).map fun (entries, r) =>
        (.mapping (propertiesOf tag) entries, r) := by
  rw [read]
  split
  · exact absurd ‹_› (peek_tagTokens tag (by simp) _)
  · rw [properties_tagTokens tag (by simp) (by simp)]
    rfl

theorem read_dashes (tag : Option String) :
    read standardHandles block true (fuel + 1) ⟨tagTokens tag ++ .item :: rest, anchors⟩ =
      (readDashes standardHandles fuel ⟨.item :: rest, anchors⟩).map fun (items, r) =>
        (.sequence (propertiesOf tag) items, r) := by
  rw [read]
  split
  · exact absurd ‹_› (peek_tagTokens tag (by simp) _)
  · rw [properties_tagTokens tag (by simp) (by simp)]
    rfl


/-- How much more fuel a node takes where its items are not indented. -/
def slack (place : Place) : Nat :=
  if place = .afterDash then 0 else 2

theorem read_leaf {leaf : Value} (isLeaf : isLeaf leaf = true) (place : Place) (tag : Option String)
    (enough : 2 * (nodeTokens place tag leaf).length ≤ fuel) :
    read standardHandles block dashes fuel ⟨nodeTokens place tag leaf ++ rest, anchors⟩ =
      .ok (ofValue tag leaf, ⟨rest, anchors⟩) := by
  rw [nodeTokens_leaf isLeaf, List.length_append] at enough
  rw [nodeTokens_leaf isLeaf, List.append_assoc]
  have two (positive : 0 < (leafTokens leaf).length) : ∃ less, fuel = less + 2 :=
    Nat.exists_eq_add_of_le' (by omega)
  match leaf with
  | .null | .bool _ | .int _ | .float _ | .text _ =>
    obtain ⟨fuel, rfl⟩ := two Nat.one_pos
    exact read_scalar tag _ _
  | .sequence [] =>
    obtain ⟨fuel, rfl⟩ := two Nat.two_pos
    exact read_emptySequence tag
  | .mapping [] =>
    obtain ⟨fuel, rfl⟩ := two Nat.two_pos
    exact read_emptyMapping tag
  | .sequence (_ :: _) => cases isLeaf
  | .mapping (_ :: _) => cases isLeaf
  | .tagged _ _ => cases isLeaf

/-- Tokens with which a written node starts. -/
def startsNode : Token → Bool
  | .tag _ _ | .scalar _ _ | .openSequence | .openMapping | .blockSequence | .blockMapping | .item => true
  | _ => false

theorem head_nodeTokens (place : Place) (tag : Option String) (value : Value) :
    ∃ token others, nodeTokens place tag value = token :: others ∧ startsNode token = true ∧
      (place = .afterDash → token ≠ .item) := by
  have behindTag (tag : Option String) {token : Token} (others : List Token) (starts : startsNode token = true)
      (noItem : place = .afterDash → token ≠ .item) :
      ∃ first others', tagTokens tag ++ token :: others = first :: others' ∧ startsNode first = true ∧
        (place = .afterDash → first ≠ .item) := by
    cases tag with
    | none => exact ⟨token, others, rfl, starts, noItem⟩
    | some name =>
      obtain ⟨handle, suffix, form, -⟩ := Scan.fullTag_tagToken name
      exact ⟨.tag handle suffix, token :: others, by simp [tagTokens, form], rfl, fun _ => by simp⟩
  match value with
  | .tagged name value =>
    rw [nodeTokens]
    exact head_nodeTokens place (some name) value
  | .mapping (entry :: entries) =>
    rw [nodeTokens]
    exact behindTag tag _ rfl (by simp)
  | .sequence (item :: items) =>
    rw [nodeTokens]
    cases dashed : isDashed place tag with
    | true => exact behindTag tag _ rfl (by rintro rfl; cases tag <;> cases dashed)
    | false => exact behindTag tag _ rfl (by simp)
  | .null | .bool _ | .int _ | .float _ | .text _ | .sequence [] | .mapping [] =>
    rw [nodeTokens_leaf rfl]
    exact behindTag tag _ rfl (by simp)

theorem readUnless_nodeTokens {place : Place} {before : List Token}
    (others : ∀ token ∈ before, startsNode token = false ∨ place = .afterDash ∧ token = .item) (tag : Option String)
    (value : Value) :
    readUnless standardHandles block dashes before (fuel + 1) ⟨nodeTokens place tag value ++ rest, anchors⟩ =
      read standardHandles block dashes fuel ⟨nodeTokens place tag value ++ rest, anchors⟩ := by
  obtain ⟨token, behind, form, starts, noItem⟩ := head_nodeTokens place tag value
  have elsewhere : token ∉ before := by
    intro inside
    obtain noStart | ⟨isDash, isItem⟩ := others token inside
    · rw [starts] at noStart
      cases noStart
    · exact noItem isDash isItem
  rw [readUnless, form, if_neg]
  simpa [Reading.atAny, Reading.peek] using elsewhere

theorem readItems_step {item : Node} {items : List Node} {behind last : Reading}
    (first : readUnless standardHandles true false [.item, .blockEnd] fuel ⟨rest, anchors⟩ = .ok (item, behind))
    (others : readItems standardHandles fuel behind = .ok (items, last)) :
    readItems standardHandles (fuel + 1) ⟨.item :: rest, anchors⟩ = .ok (item :: items, last) := by
  simp only [readItems, Reading.peek, Reading.skip, List.head?_cons, List.drop_one, List.tail_cons, first, ok_bind, others]
  rfl

theorem readDashes_step {item : Node} {items : List Node} {behind last : Reading}
    (first : readUnless standardHandles true false [.item, .key, .value, .blockEnd] fuel ⟨rest, anchors⟩ =
      .ok (item, behind))
    (others : readDashes standardHandles fuel behind = .ok (items, last)) :
    readDashes standardHandles (fuel + 1) ⟨.item :: rest, anchors⟩ = .ok (item :: items, last) := by
  simp only [readDashes, Reading.peek, Reading.skip, List.head?_cons, List.drop_one, List.tail_cons, first, ok_bind, others]
  rfl

theorem readDashes_end (next : rest.head? ≠ some .item) :
    readDashes standardHandles (fuel + 1) ⟨rest, anchors⟩ = .ok ([], ⟨rest, anchors⟩) := by
  rw [readDashes]
  split
  · exact absurd ‹_› next
  · rfl

theorem readEntries_step {key value : Node} {entries : List (Node × Node)} {tokens : List Token} {behind last : Reading}
    (first : readUnless standardHandles true true [.key, .value, .blockEnd] fuel ⟨rest, anchors⟩ =
      .ok (key, ⟨.value :: tokens, anchors⟩))
    (second : readUnless standardHandles true true [.key, .value, .blockEnd] fuel ⟨tokens, anchors⟩ = .ok (value, behind))
    (others : readEntries standardHandles fuel behind = .ok (entries, last)) :
    readEntries standardHandles (fuel + 1) ⟨.key :: rest, anchors⟩ = .ok ((key, value) :: entries, last) := by
  simp only [readEntries, Reading.peek, Reading.skip, List.head?_cons, List.drop_one, List.tail_cons, first, ok_bind,
    second, others]
  rfl

end Steps

section Nodes

mutual

/-- The tokens of a node are read as its node, whatever follows that cannot be one more item of it. -/
theorem read_nodeTokens (place : Place) (tag : Option String) (value : Value) (fuel anchors : Nat) (rest : List Token)
    (enough : 2 * (nodeTokens place tag value).length + slack place ≤ fuel)
    (next : place ≠ .afterDash → rest.head? ≠ some .item) :
    read standardHandles true (place != .afterDash) fuel ⟨nodeTokens place tag value ++ rest, anchors⟩ =
      .ok (ofValue tag value, ⟨rest, anchors⟩) := by
  match value with
  | .tagged name value =>
    rw [nodeTokens] at enough ⊢
    exact read_nodeTokens place (some name) value fuel anchors rest enough next
  | .sequence (item :: items) =>
    rw [nodeTokens, List.length_append] at enough
    obtain ⟨fuel, rfl⟩ := Nat.exists_eq_add_of_le' (show 1 ≤ fuel by
      split at enough <;> simp [itemsTokens] at enough <;> omega)
    rw [nodeTokens]
    cases dashed : isDashed place tag with
    | true =>
      have elsewhere : place ≠ .afterDash := by
        rintro rfl
        cases tag <;> cases dashed
      have dashes : (place != .afterDash) = true := bne_iff_ne.mpr elsewhere
      have read' := readDashes_itemsTokens (item :: items) fuel anchors rest
        (by simp only [slack, elsewhere, dashed, ↓reduceIte] at enough; omega) (next elsewhere)
      rw [if_pos rfl, List.append_assoc, dashes, itemsTokens, List.cons_append, read_dashes]
      rw [itemsTokens, List.cons_append] at read'
      rw [read']
      rfl
    | false =>
      have read' := readItems_itemsTokens (item :: items) fuel anchors rest
        (by simp only [dashed, Bool.false_eq_true, ↓reduceIte, List.length_cons, List.length_append] at enough; omega)
      rw [if_neg Bool.false_ne_true, List.append_assoc, List.cons_append, List.append_assoc, read_blockSequence]
      simp only [List.cons_append, List.nil_append, read']
      rfl
  | .mapping (entry :: entries) =>
    rw [nodeTokens, List.length_append] at enough
    obtain ⟨fuel, rfl⟩ := Nat.exists_eq_add_of_le' (show 1 ≤ fuel by simp at enough; omega)
    have read' := readEntries_entriesTokens (entry :: entries) fuel anchors rest
      (by simp only [List.length_cons, List.length_append] at enough; omega)
    rw [nodeTokens, List.append_assoc, List.cons_append, List.append_assoc, read_blockMapping]
    simp only [List.cons_append, List.nil_append, read']
    rfl
  | .null | .bool _ | .int _ | .float _ | .text _ | .sequence [] | .mapping [] =>
    exact read_leaf rfl place tag (Nat.le_trans (Nat.le_add_right _ _) enough)

/-- The items of a sequence, up to the end of its block. -/
theorem readItems_itemsTokens (items : List Value) (fuel anchors : Nat) (rest : List Token)
    (enough : 2 * (itemsTokens items).length + 1 ≤ fuel) :
    readItems standardHandles fuel ⟨itemsTokens items ++ .blockEnd :: rest, anchors⟩ =
      .ok (ofItems items, ⟨rest, anchors⟩) := by
  obtain ⟨fuel, rfl⟩ := Nat.exists_eq_add_of_le' (show 1 ≤ fuel by omega)
  match items with
  | [] => rfl
  | item :: items =>
    simp only [itemsTokens, List.length_cons, List.length_append] at enough
    obtain ⟨fuel, rfl⟩ := Nat.exists_eq_add_of_le' (show 1 ≤ fuel by omega)
    have first := read_nodeTokens .afterDash none item fuel anchors (itemsTokens items ++ .blockEnd :: rest)
      (by simp [slack]; omega) (absurd rfl)
    rw [itemsTokens, List.cons_append, List.append_assoc]
    exact readItems_step ((readUnless_nodeTokens (by simp [startsNode]) none item).trans first)
      (readItems_itemsTokens items _ anchors rest (by omega))

/-- The items of a sequence that is not indented, up to a token that is no item. -/
theorem readDashes_itemsTokens (items : List Value) (fuel anchors : Nat) (rest : List Token)
    (enough : 2 * (itemsTokens items).length + 1 ≤ fuel) (next : rest.head? ≠ some .item) :
    readDashes standardHandles fuel ⟨itemsTokens items ++ rest, anchors⟩ = .ok (ofItems items, ⟨rest, anchors⟩) := by
  obtain ⟨fuel, rfl⟩ := Nat.exists_eq_add_of_le' (show 1 ≤ fuel by omega)
  match items with
  | [] => exact readDashes_end next
  | item :: items =>
    simp only [itemsTokens, List.length_cons, List.length_append] at enough
    obtain ⟨fuel, rfl⟩ := Nat.exists_eq_add_of_le' (show 1 ≤ fuel by omega)
    have first := read_nodeTokens .afterDash none item fuel anchors (itemsTokens items ++ rest)
      (by simp [slack]; omega) (absurd rfl)
    rw [itemsTokens, List.cons_append, List.append_assoc]
    exact readDashes_step ((readUnless_nodeTokens (by simp [startsNode]) none item).trans first)
      (readDashes_itemsTokens items _ anchors rest (by omega) next)

/-- The entries of a mapping, up to the end of its block. -/
theorem readEntries_entriesTokens (entries : List (Value × Value)) (fuel anchors : Nat) (rest : List Token)
    (enough : 2 * (entriesTokens entries).length + 1 ≤ fuel) :
    readEntries standardHandles fuel ⟨entriesTokens entries ++ .blockEnd :: rest, anchors⟩ =
      .ok (ofEntries entries, ⟨rest, anchors⟩) := by
  obtain ⟨fuel, rfl⟩ := Nat.exists_eq_add_of_le' (show 1 ≤ fuel by omega)
  match entries with
  | [] => rfl
  | (key, value) :: entries =>
    simp only [entriesTokens, List.length_cons, List.length_append] at enough
    obtain ⟨fuel, rfl⟩ := Nat.exists_eq_add_of_le' (show 1 ≤ fuel by omega)
    have dashesUnder : (placeUnder key != .afterDash) = true := by
      unfold placeUnder
      split <;> rfl
    have dashesOf : (placeOfKey key != .afterDash) = true := by
      unfold placeOfKey
      split <;> rfl
    have noItem : (entriesTokens entries ++ .blockEnd :: rest).head? ≠ some .item := by
      cases entries <;> simp [entriesTokens]
    have first := read_nodeTokens (placeOfKey key) none key fuel anchors
      (.value :: (nodeTokens (placeUnder key) none value ++ (entriesTokens entries ++ .blockEnd :: rest)))
      (by rw [slack]; split <;> omega) (by simp)
    have second := read_nodeTokens (placeUnder key) none value fuel anchors
      (entriesTokens entries ++ .blockEnd :: rest) (by rw [slack]; split <;> omega) fun _ => noItem
    rw [dashesOf] at first
    rw [dashesUnder] at second
    rw [entriesTokens, List.cons_append, List.append_assoc, List.cons_append, List.append_assoc]
    exact readEntries_step ((readUnless_nodeTokens (by simp [startsNode]) none key).trans first)
      ((readUnless_nodeTokens (by simp [startsNode]) none value).trans second) 
        (readEntries_entriesTokens entries _ anchors rest (by omega))

end

end Nodes

end Node

end Upkeep.Yaml
