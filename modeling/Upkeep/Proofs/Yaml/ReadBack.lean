import Upkeep.Proofs.Yaml.LegibleValues
import Upkeep.Proofs.Yaml.WrittenDocument

/-! A legible mapping whose tags read back is read back from what is written for it. -/
namespace Upkeep.Yaml

open Scanner

namespace Value

/-- A value under a tag, if there is one. -/
def under (tag : Option String) (value : Value) : Value :=
  match tag with
  | none => value
  | some name => .tagged name value

variable {tag : Option String} {value : Value}

theorem itemsReadBack_iff {items : List Value} :
    itemsReadBack items = true ↔ ∀ item ∈ items, item.tagsReadBack = true := by
  induction items with
  | nil => simp [itemsReadBack]
  | cons item items ih => simp [itemsReadBack, ih]

theorem entriesReadBack_iff {entries : List (Value × Value)} :
    entriesReadBack entries = true ↔
      ∀ entry ∈ entries, entry.1.tagsReadBack = true ∧ entry.2.tagsReadBack = true := by
  induction entries with
  | nil => simp [entriesReadBack]
  | cons entry entries ih => simp [entriesReadBack, ih]

/-! ### Scalars -/

theorem underTag_fullTag (readsBack : TagReadsBack tag) : underTag (tag.map Scan.fullTag) value = under tag value := by
  cases tag with
  | none => rfl
  | some name => simp [underTag, under, Scan.localTag?_fullTag (readsBack name rfl)]

theorem ofScalar_fullTag (readsBack : TagReadsBack tag) {style : Style} {content : String}
    (reads : (if style = .plain then Scalar.ofPlain content else .ok (.text content)) = .ok value) :
    ofScalar (tag.map Scan.fullTag) style content = .ok (under tag value) := by
  cases tag with
  | none => exact reads
  | some name =>
    simp only [ofScalar, Option.map_some, Scan.localTag?_fullTag (readsBack name rfl), reads]
    rfl

theorem reads_styleOf (s : String) :
    (if Printer.styleOf s = .plain then Scalar.ofPlain s else .ok (.text s)) = .ok (.text s) := by
  obtain ⟨style, -⟩ | ⟨style, reads, -⟩ | ⟨style, -⟩ | style := Printer.styleOf_cases s
  case inr.inl =>
    unfold Scalar.readsAsText at reads
    rw [if_pos style]
    split at reads
    · rename_i same
      simp only [Bool.and_eq_true, beq_iff_eq] at reads
      rw [same, reads.1]
    · cases reads
  all_goals rw [style, if_neg (by decide)]

/-! ### Nodes -/

section Nodes

variable {d : Document} {depth n : Nat} {inside : Node → Following Value}

theorem ofNode_scalar (readsBack : TagReadsBack tag) {style : Style} {content : String}
    (reads : (if style = .plain then Scalar.ofPlain content else .ok (.text content)) = .ok value) :
    (ofNode d depth (.scalar (Node.propertiesOf tag) style content)).run n = .ok (under tag value, n) := by
  have scalar : (liftM (ofScalar (tag.map Scan.fullTag) style content) : Following Value).run n =
      .ok (under tag value, n) := by
    rw [ofScalar_fullTag readsBack reads]
    rfl
  cases depth <;> exact scalar

theorem mapM_ofItems {items : List Value}
    (each : ∀ item ∈ items, ∀ n, (inside (Node.ofValue none item)).run n = .ok (item, n)) :
    ((Node.ofItems items).mapM inside).run n = .ok (items, n) := by
  induction items generalizing n with
  | nil => rfl
  | cons item items ih =>
    obtain ⟨first, others⟩ := List.forall_mem_cons.mp each
    rw [Node.ofItems, List.mapM_cons, StateT.run_bind, first n, ok_bind, StateT.run_bind, ih others]
    rfl

/-- The entries behind those that are known, when all their keys differ. -/
theorem foldlM_ofEntries {known entries : List (Value × Value)}
    (keys : ∀ entry ∈ entries, ∀ n, (inside (Node.ofValue none entry.1)).run n = .ok (entry.1, n))
    (values : ∀ entry ∈ entries, ∀ n, (inside (Node.ofValue none entry.2)).run n = .ok (entry.2, n))
    (differ : KeysDiffer (known ++ entries)) :
    ((Node.ofEntries entries).foldlM (fun known (entry : Node × Node) => do
      let key ← inside entry.1
      let value ← inside entry.2
      addEntry known key value) known).run n = .ok (known ++ entries, n) := by
  induction entries generalizing known n with
  | nil =>
    rw [List.append_nil]
    rfl
  | cons entry entries ih =>
    obtain ⟨key, value⟩ := entry
    obtain ⟨firstKey, otherKeys⟩ := List.forall_mem_cons.mp keys
    obtain ⟨firstValue, otherValues⟩ := List.forall_mem_cons.mp values
    have added : addEntry known key value = .ok (known ++ [(key, value)]) :=
      addEntry_eq_ok.mpr ⟨fun entry inside => (List.pairwise_append.mp differ).2.2 entry inside _ List.mem_cons_self, rfl⟩
    have same : known ++ (key, value) :: entries = known ++ [(key, value)] ++ entries := by simp
    rw [same] at differ ⊢
    rw [Node.ofEntries, List.foldlM_cons, StateT.run_bind, StateT.run_bind, firstKey n, ok_bind, StateT.run_bind,
      firstValue n, ok_bind, added]
    exact ih otherKeys otherValues differ

/-- The node of a legible value gives the value. -/
theorem ofNode_ofValue (legible : Legible depth value) (tags : value.tagsReadBack = true) (readsBack : TagReadsBack tag)
    (single : tag = none ∨ Untagged value) (n : Nat) :
    (ofNode d depth (Node.ofValue tag value)).run n = .ok (under tag value, n) := by
  induction legible generalizing tag n with
  | null => exact ofNode_scalar readsBack rfl
  | bool b => cases b <;> exact ofNode_scalar readsBack rfl
  | int fits => exact ofNode_scalar readsBack (ofPlain_toString fits)
  | float canonical => exact ofNode_scalar readsBack (ofPlain_floatText canonical).1
  | text s => exact ofNode_scalar readsBack (reads_styleOf s)
  | @sequence depth items _ ih =>
    have each (item : Value) (inside : item ∈ items) (n : Nat) :
        (ofNode d depth (Node.ofValue none item)).run n = .ok (item, n) :=
      ih item inside (itemsReadBack_iff.mp tags item inside) tagReadsBack_none (.inl rfl) n
    change ((Node.ofItems items).mapM (ofNode d depth) >>= fun values =>
      pure (underTag (tag.map Scan.fullTag) (.sequence values))).run n = _
    rw [StateT.run_bind, mapM_ofItems each, ok_bind, underTag_fullTag readsBack]
    rfl
  | @mapping depth entries _ _ differ keys values =>
    have tags := entriesReadBack_iff.mp tags
    have keys (entry : Value × Value) (inside : entry ∈ entries) (n : Nat) :
        (ofNode d depth (Node.ofValue none entry.1)).run n = .ok (entry.1, n) :=
      keys entry inside (tags entry inside).1 tagReadsBack_none (.inl rfl) n
    have values (entry : Value × Value) (inside : entry ∈ entries) (n : Nat) :
        (ofNode d depth (Node.ofValue none entry.2)).run n = .ok (entry.2, n) :=
      values entry inside (tags entry inside).2 tagReadsBack_none (.inl rfl) n
    have entriesRead := foldlM_ofEntries (n := n) keys values (List.nil_append entries ▸ differ)
    change ((Node.ofEntries entries).foldlM _ [] >>= fun entries =>
      pure (underTag (tag.map Scan.fullTag) (.mapping entries)) : Following Value).run n = _
    rw [StateT.run_bind, entriesRead, ok_bind, underTag_fullTag readsBack]
    rfl
  | @tagged depth name value untagged legible ih =>
    obtain rfl := single.resolve_right fun alone => alone name value rfl
    simp only [tagsReadBack, Bool.and_eq_true, decide_eq_true_eq] at tags
    refine ih tags.2 ?_ (.inr untagged) n
    rintro _ ⟨⟩
    exact tags.1

end Nodes

/-- A mapping is read back from what is written for it below a line of comment. -/
theorem read_mapping {comment : List Char} (onLine : Spot.OnLine comment) (allowed : Printer.Allowed comment)
    {entries : List (Value × Value)} (legible : Legible depthLimit (.mapping entries))
    (tags : entriesReadBack entries = true) {text : String} (written : (mapping entries).print? = some text) :
    read (String.ofList (commentLine comment) ++ text) = .ok (.mapping entries) := by
  have gives := ofNode_ofValue (d := ⟨some (Node.ofValue none (.mapping entries)), []⟩) legible tags tagReadsBack_none
    (.inl rfl) 0
  rw [read, Document.ofText_mapping onLine allowed tags written, ok_bind, ofDocument]
  change (·.1) <$> (ofNode _ depthLimit _).run 0 = _
  rw [gives]
  rfl

end Value

end Upkeep.Yaml
