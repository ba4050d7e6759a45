import Upkeep.Proofs.Yaml.NestedTokens
import Upkeep.Proofs.Yaml.ScannedDocument

/-! A mapping that is written below a line of comment is the one document of its text: the tree that is read
has a node for each part of the mapping, and nothing in it is anchored. -/
namespace Upkeep.Yaml

open Printer Scanner

namespace Node

mutual

theorem anchored_ofValue (tag : Option String) (value : Value) : anchored (ofValue tag value) = [] := by
  match value with
  | .tagged name value =>
    rw [ofValue]
    exact anchored_ofValue (some name) value
  | .sequence items => simp [ofValue, anchored, propertiesOf, anchoredInItems_ofItems items]
  | .mapping entries => simp [ofValue, anchored, propertiesOf, anchoredInEntries_ofEntries entries]
  | .null | .bool _ | .int _ | .float _ | .text _ => rfl

theorem anchoredInItems_ofItems (items : List Value) : anchoredInItems (ofItems items) = [] := by
  match items with
  | [] => rfl
  | item :: items => rw [ofItems, anchoredInItems, anchored_ofValue, anchoredInItems_ofItems items, List.append_nil]

theorem anchoredInEntries_ofEntries (entries : List (Value × Value)) : anchoredInEntries (ofEntries entries) = [] := by
  match entries with
  | [] => rfl
  | (key, value) :: entries =>
    rw [ofEntries, anchoredInEntries, anchored_ofValue, anchored_ofValue, anchoredInEntries_ofEntries entries]
    rfl

end

variable {names : List String}

mutual

theorem aliasesKnown_ofValue (tag : Option String) (value : Value) : aliasesKnown names (ofValue tag value) = true := by
  match value with
  | .tagged name value =>
    rw [ofValue]
    exact aliasesKnown_ofValue (some name) value
  | .sequence items =>
    rw [ofValue, aliasesKnown]
    exact aliasesKnownInItems_ofItems items
  | .mapping entries =>
    rw [ofValue, aliasesKnown]
    exact aliasesKnownInEntries_ofEntries entries
  | .null | .bool _ | .int _ | .float _ | .text _ => rfl

theorem aliasesKnownInItems_ofItems (items : List Value) : aliasesKnownInItems names (ofItems items) = true := by
  match items with
  | [] => rfl
  | item :: items =>
    rw [ofItems, aliasesKnownInItems, aliasesKnown_ofValue, aliasesKnownInItems_ofItems items]
    rfl

theorem aliasesKnownInEntries_ofEntries (entries : List (Value × Value)) :
    aliasesKnownInEntries names (ofEntries entries) = true := by
  match entries with
  | [] => rfl
  | (key, value) :: entries =>
    rw [ofEntries, aliasesKnownInEntries, aliasesKnown_ofValue, aliasesKnown_ofValue,
      aliasesKnownInEntries_ofEntries entries]
    rfl

end

end Node

namespace Document

theorem ofNode_ofValue (tag : Option String) (value : Value) :
    ofNode (Node.ofValue tag value) = .ok ⟨some (Node.ofValue tag value), []⟩ := by
  rw [ofNode, Node.aliasesKnown_ofValue, Node.anchored_ofValue]
  rfl

/-- Tokens that start with a node have no directives in front of them. -/
theorem directives_of_startsNode {token : Token} {tokens : List Token} (starts : Node.startsNode token = true) :
    directives (token :: tokens) = (none, [], token :: tokens, true) := by
  cases token with
  | version _ _ | handle _ _ => cases starts
  | _ => rfl

/-- The tokens of a value that stands in no sequence or mapping are one document. -/
theorem ofTokens_nodeTokens (value : Value) :
    ofTokens (nodeTokens .afterDash none value) = .ok ⟨some (Node.ofValue none value), []⟩ := by
  obtain ⟨token, others, form, starts, -⟩ := Node.head_nodeTokens .afterDash none value
  have implicit : (some token == some Token.documentStart) = false := by
    rw [beq_eq_false_iff_ne]
    rintro ⟨⟩
    cases starts
  have read := Node.read_nodeTokens .afterDash none value
    (2 * (nodeTokens .afterDash none value).length + 2) 0 [] (Nat.le_add_right _ _) (absurd rfl)
  rw [List.append_nil, form] at read
  rw [form, ofTokens, directives_of_startsNode starts]
  simp only [List.head?_cons, implicit, Option.isSome_none, List.isEmpty_nil, Bool.not_true, Bool.or_self,
    Bool.false_eq_true, ↓reduceIte, List.isEmpty_cons, Bool.false_and, List.nil_append]
  change Node.read standardHandles true false (2 * (token :: others).length + 2) ⟨token :: others, 0⟩ >>= _ = _
  rw [show Node.read standardHandles true false _ _ = _ from read]
  exact ofNode_ofValue none value

/-- The document of a mapping that is written below a line of comment. -/
theorem ofText_mapping {comment : List Char} (onLine : Spot.OnLine comment) (allowed : Allowed comment)
    {entries : List (Value × Value)} (tags : Value.entriesReadBack entries = true) {text : String}
    (written : (Value.mapping entries).print? = some text) :
    Document.ofText (String.ofList (commentLine comment) ++ text) =
      .ok ⟨some (Node.ofValue none (.mapping entries)), []⟩ := by
  have tokens : Token.ofText (String.ofList (commentLine comment) ++ text) =
      .ok (nodeTokens .afterDash none (.mapping entries)) := by
    have writable : isWritable (.mapping entries) = true := by
      by_contra refused
      rw [Value.print?, if_neg refused] at written
      cases written
    cases entries with
    | nil =>
      obtain rfl := Option.some.inj written
      rw [← String.ofList_append]
      exact Token.ofText_empty onLine allowed
    | cons entry entries =>
      have nonempty := List.cons_ne_nil entry entries
      rw [print?_mapping nonempty writable] at written
      obtain rfl := Option.some.inj written
      rw [← String.ofList_append]
      exact Token.ofText_entries nonempty tags onLine allowed
  rw [Document.ofText, tokens]
  exact ofTokens_nodeTokens (.mapping entries)

end Document

end Upkeep.Yaml
