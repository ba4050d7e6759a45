import Upkeep.Proofs.Result
import Upkeep.Yaml.Reader

/-! What values a document can give: whole numbers of 64 bits, one value that is no number, tags that are not
tagged themselves, keys that differ, and collections nested no deeper than a reader follows. -/
namespace Upkeep.Yaml

namespace Value

/-- The value carries no tag. -/
def Untagged (value : Value) : Prop :=
  ∀ name inner, value ≠ .tagged name inner

/-- No entry has the key of an entry in front of it. -/
def KeysDiffer (entries : List (Value × Value)) : Prop :=
  entries.Pairwise fun entry later => entry.1.sameKey later.1 = false

/-- The values that a document can give where collections may be nested `depth` deep. -/
inductive Legible : Nat → Value → Prop
  | null {depth : Nat} : Legible depth .null
  | bool {depth : Nat} (b : Bool) : Legible depth (.bool b)
  | int {depth : Nat} {n : Int} : Scalar.fitsWord n = true → Legible depth (.int n)
  | float {depth : Nat} {x : Binary64} : (x.isNaN → x = .notANumber) → Legible depth (.float x)
  | text {depth : Nat} (s : String) : Legible depth (.text s)
  | sequence {depth : Nat} {items : List Value} : (∀ item ∈ items, Legible depth item) →
    Legible (depth + 1) (.sequence items)
  | mapping {depth : Nat} {entries : List (Value × Value)} : (∀ entry ∈ entries, Legible depth entry.1) →
    (∀ entry ∈ entries, Legible depth entry.2) → KeysDiffer entries → Legible (depth + 1) (.mapping entries)
  | tagged {depth : Nat} (name : String) {value : Value} : Untagged value → Legible depth value →
    Legible depth (.tagged name value)

/-! ### Scalars -/

/-- A scalar without a tag, legible at any depth. -/
structure LegibleScalar (value : Value) : Prop where
  untagged : Untagged value
  legible : ∀ depth, Legible depth value

theorem legibleScalar_null : LegibleScalar .null :=
  ⟨fun _ _ => (nomatch ·), fun _ => .null⟩

theorem legibleScalar_bool (b : Bool) : LegibleScalar (.bool b) :=
  ⟨fun _ _ => (nomatch ·), fun _ => .bool b⟩

theorem legibleScalar_text (s : String) : LegibleScalar (.text s) :=
  ⟨fun _ _ => (nomatch ·), fun _ => .text s⟩

theorem legibleScalar_of_ofWhole? {n : Int} {value : Value} (reads : Scalar.ofWhole? n = .ok (some value)) :
    LegibleScalar value := by
  unfold Scalar.ofWhole? at reads
  split at reads
  · rename_i fits
    obtain rfl : Value.int n = value := by simpa using reads
    exact ⟨fun _ _ => (nomatch ·), fun _ => .int fits⟩
  · split at reads <;> simp at reads

theorem canonical_of_isFinite {x : Binary64} (finite : x.isFinite = true) : x.isNaN → x = .notANumber := by
  intro strange
  simp only [Binary64.isFinite, Binary64.isNaN, decide_eq_true_eq] at finite strange
  omega

theorem canonical_of_float? {s : List Char} {x : Binary64} (reads : Scalar.float? s = some x) :
    x.isNaN → x = .notANumber := by
  unfold Scalar.float? at reads
  split at reads
  case h_13 =>
    split at reads
    · simp only [Option.ite_none_right_eq_some, Option.some.injEq] at reads
      exact reads.2 ▸ canonical_of_isFinite reads.1
    · cases reads
  all_goals
    obtain rfl := Option.some.inj reads
    decide

theorem legibleScalar_of_float? {s : List Char} {x : Binary64} (reads : Scalar.float? s = some x) :
    LegibleScalar (.float x) :=
  ⟨fun _ _ => (nomatch ·), fun _ => .float (canonical_of_float? reads)⟩

theorem legibleScalar_of_ofPlain {content : String} {value : Value} (reads : Scalar.ofPlain content = .ok value) :
    LegibleScalar value := by
  unfold Scalar.ofPlain at reads
  split at reads
  · obtain rfl := Except.ok.inj reads
    exact legibleScalar_null
  · split at reads
    · obtain rfl := Except.ok.inj reads
      exact legibleScalar_bool _
    · dsimp only at reads
      -- What looks like a whole number may be too large for one, and is then read like all else.
      split at reads
      all_goals
        obtain ⟨whole, isWhole, reads⟩ := Result.bind_eq_ok.mp reads
        cases whole with
        | some number =>
          obtain rfl := Except.ok.inj reads
          first
          | exact legibleScalar_of_ofWhole? isWhole
          | cases isWhole
        | none =>
          dsimp only at reads
          split at reads
          · obtain rfl := Except.ok.inj reads
            exact legibleScalar_text content
          · split at reads
            · obtain rfl := Except.ok.inj reads
              exact legibleScalar_of_float? ‹_›
            · obtain rfl := Except.ok.inj reads
              exact legibleScalar_text content

theorem legibleScalar_of_ofTagged {tag content : String} {value : Value} (reads : ofTagged tag content = .ok value) :
    LegibleScalar value := by
  unfold ofTagged at reads
  extract_lets orRefuse at reads
  have accepted {found : Option Value} (reads : orRefuse found = .ok value) : found = some value := by
    cases found with
    | some found => exact congrArg some (Except.ok.inj reads)
    | none => cases reads
  split at reads
  · obtain ⟨b, -, rfl⟩ := Option.map_eq_some_iff.mp (accepted reads)
    exact legibleScalar_bool b
  · split at reads
    · split at reads
      · obtain ⟨whole, isWhole, reads⟩ := Result.bind_eq_ok.mp reads
        obtain rfl := accepted reads
        exact legibleScalar_of_ofWhole? isWhole
      · cases reads
    · split at reads
      · obtain ⟨x, isFloat, rfl⟩ := Option.map_eq_some_iff.mp (accepted reads)
        exact legibleScalar_of_float? isFloat
      · split at reads
        · have isNull := accepted reads
          split at isNull
          · obtain rfl := Option.some.inj isNull
            exact legibleScalar_null
          · cases isNull
        · obtain rfl := Except.ok.inj reads
          exact legibleScalar_text content

theorem legible_of_ofScalar {tag : Option String} {style : Style} {content : String} {value : Value}
    (reads : ofScalar tag style content = .ok value) (depth : Nat) : Legible depth value := by
  have scalar {value : Value}
      (reads : (if style = .plain then Scalar.ofPlain content else .ok (.text content)) = .ok value) :
      LegibleScalar value := by
    split at reads
    · exact legibleScalar_of_ofPlain reads
    · obtain rfl := Except.ok.inj reads
      exact legibleScalar_text content
  unfold ofScalar at reads
  dsimp only at reads
  split at reads
  · exact (scalar reads).legible depth
  · split at reads
    · obtain ⟨inner, untagged, rfl⟩ := Result.map_eq_ok.mp reads
      exact .tagged _ (scalar untagged).untagged ((scalar untagged).legible depth)
    · exact (legibleScalar_of_ofTagged reads).legible depth

/-! ### Collections -/

section Collections

variable {α β : Type} {n m : Nat}

theorem run_bind_eq_ok {first : Following α} {next : α → Following β} {b : β} :
    (first >>= next).run n = .ok (b, m) ↔ ∃ a k, first.run n = .ok (a, k) ∧ (next a).run k = .ok (b, m) := by
  rw [StateT.run_bind, Result.bind_eq_ok]
  exact Prod.exists

theorem of_run_pure {a b : α} (reads : (pure a : Following α).run n = .ok (b, m)) : a = b :=
  congrArg Prod.fst (Except.ok.inj reads)

theorem of_run_lift {result : Except Fault α} {a : α} (reads : (liftM result : Following α).run n = .ok (a, m)) :
    result = .ok a := by
  cases result with
  | error fault => cases reads
  | ok b => exact congrArg (Except.ok ∘ Prod.fst) (Except.ok.inj reads)

variable {P : β → Prop} {inside : α → Following β}

/-- What holds of each value that is read holds of all that are read from a list. -/
theorem forall_of_mapM (each : ∀ {a b n m}, (inside a).run n = .ok (b, m) → P b) {items : List α} {values : List β}
    (reads : (items.mapM inside).run n = .ok (values, m)) : ∀ value ∈ values, P value := by
  induction items generalizing values n m with
  | nil =>
    obtain rfl := of_run_pure reads
    exact fun _ inside => nomatch inside
  | cons item items ih =>
    rw [List.mapM_cons] at reads
    obtain ⟨value, k, first, reads⟩ := run_bind_eq_ok.mp reads
    obtain ⟨others, l, rest, reads⟩ := run_bind_eq_ok.mp reads
    obtain rfl := of_run_pure reads
    exact List.forall_mem_cons.mpr ⟨each first, ih rest⟩

/-- What each step keeps, all steps through a list keep. -/
theorem foldlM_keeps {P : β → Prop} {step : β → α → Following β}
    (each : ∀ {a b b' n m}, P b → (step b a).run n = .ok (b', m) → P b') {items : List α} {start last : β}
    (holds : P start)
    (reads : (items.foldlM step start).run n = .ok (last, m)) : P last := by
  induction items generalizing start n with
  | nil =>
    obtain rfl := of_run_pure reads
    exact holds
  | cons item items ih =>
    rw [List.foldlM_cons] at reads
    obtain ⟨next, k, first, reads⟩ := run_bind_eq_ok.mp reads
    exact ih (each holds first) reads

end Collections

theorem keysDiffer_append {known : List (Value × Value)} (differ : KeysDiffer known) {key : Value}
    (new : ∀ entry ∈ known, entry.1.sameKey key = false) (value : Value) : KeysDiffer (known ++ [(key, value)]) :=
  List.pairwise_append.mpr ⟨differ, List.pairwise_singleton _ _, fun entry inside later isLast => by
    rw [List.mem_singleton.mp isLast]
    exact new entry inside⟩

theorem addEntry_eq_ok {known entries : List (Value × Value)} {key value : Value} :
    addEntry known key value = .ok entries ↔
      (∀ entry ∈ known, entry.1.sameKey key = false) ∧ entries = known ++ [(key, value)] := by
  unfold addEntry
  split
  · rename_i repeated
    obtain ⟨entry, inside, same⟩ := List.any_eq_true.mp repeated
    refine ⟨nofun, fun ⟨new, _⟩ => ?_⟩
    rw [new entry inside] at same
    cases same
  · rename_i new
    constructor
    · intro same
      refine ⟨fun entry inside => ?_, (Except.ok.inj same).symm⟩
      exact Bool.eq_false_iff.mpr fun same => new (List.any_eq_true.mpr ⟨entry, inside, same⟩)
    · rintro ⟨-, rfl⟩
      rfl

section Nodes

variable {d : Document} {depth n m : Nat} {node : Node} {value : Value}

/-- A tag goes around a collection only where there is one. -/
theorem legible_underTag (tag : Option String) (untagged : Untagged value) (legible : Legible depth value) :
    Legible depth (underTag tag value) := by
  unfold underTag
  split
  · exact .tagged _ untagged legible
  · exact legible

theorem legible_of_ofNodeWith_none (reads : (ofNodeWith d none node).run n = .ok (value, m)) : Legible depth value := by
  obtain ⟨followed, k, -, reads⟩ := run_bind_eq_ok.mp reads
  cases followed with
  | scalar properties style content => exact legible_of_ofScalar (of_run_lift reads) depth
  | _ => cases reads

/-- One level of collections is put around what is legible inside them. -/
theorem legible_of_ofNodeWith {inside : Node → Following Value}
    (each : ∀ {node value n m}, (inside node).run n = .ok (value, m) → Legible depth value)
    (reads : (ofNodeWith d (some inside) node).run n = .ok (value, m)) : Legible (depth + 1) value := by
  obtain ⟨followed, k, -, reads⟩ := run_bind_eq_ok.mp reads
  cases followed with
  | scalar properties style content => exact legible_of_ofScalar (of_run_lift reads) (depth + 1)
  | sequence properties items =>
    obtain ⟨values, l, inner, reads⟩ := run_bind_eq_ok.mp reads
    obtain rfl := of_run_pure reads
    exact legible_underTag _ (fun _ _ => (nomatch ·)) (.sequence (forall_of_mapM each inner))
  | mapping properties entries =>
    obtain ⟨known, l, inner, reads⟩ := run_bind_eq_ok.mp reads
    obtain rfl := of_run_pure reads
    have keeps : (∀ entry ∈ known, Legible depth entry.1 ∧ Legible depth entry.2) ∧ KeysDiffer known := by
      refine foldlM_keeps (P := fun known => (∀ entry ∈ known, Legible depth entry.1 ∧ Legible depth entry.2) ∧
        KeysDiffer known) ?_ ⟨List.forall_mem_nil _, List.Pairwise.nil⟩ inner
      rintro known entry entries n m ⟨legible, differ⟩ step
      obtain ⟨key, k, isKey, step⟩ := run_bind_eq_ok.mp step
      obtain ⟨value, l, isValue, step⟩ := run_bind_eq_ok.mp step
      obtain ⟨new, rfl⟩ := addEntry_eq_ok.mp (of_run_lift step)
      exact ⟨List.forall_mem_append.mpr ⟨legible, List.forall_mem_singleton.mpr ⟨each isKey, each isValue⟩⟩,
        keysDiffer_append differ new value⟩
    exact legible_underTag _ (fun _ _ => (nomatch ·))
      (.mapping (fun entry inside => (keeps.1 entry inside).1) (fun entry inside => (keeps.1 entry inside).2) keeps.2)
  | _ => cases reads

/-- What a node gives is legible. -/
theorem legible_of_ofNode (reads : (ofNode d depth node).run n = .ok (value, m)) : Legible depth value := by
  induction depth generalizing node value n m with
  | zero => exact legible_of_ofNodeWith_none reads
  | succ depth ih => exact legible_of_ofNodeWith ih reads

/-- What a text gives is legible. -/
theorem legible_of_read {source : String} (reads : read source = .ok value) : Legible depthLimit value := by
  obtain ⟨d, -, reads⟩ := Result.bind_eq_ok.mp reads
  unfold ofDocument at reads
  split at reads
  · obtain rfl := Except.ok.inj reads
    exact .null
  · obtain ⟨⟨found, n⟩, ran, rfl⟩ := Result.map_eq_ok.mp reads
    exact legible_of_ofNode ran

end Nodes

end Value

end Upkeep.Yaml
