import Upkeep.Proofs.Yaml.Layout

/-! What can be said of every written text: a document may hold its characters, and a key in front
of its colon is short. -/
namespace Upkeep.Yaml.Printer

/-! ### Characters -/

/-- A document may hold these characters. -/
def Allowed (s : List Char) : Prop :=
  ∀ c ∈ s, isAllowed c = true

variable {s t : List Char}

theorem Allowed.append (left : Allowed s) (right : Allowed t) : Allowed (s ++ t) :=
  List.forall_mem_append.mpr ⟨left, right⟩

theorem Allowed.cons {c : Char} (first : isAllowed c = true) (others : Allowed s) : Allowed (c :: s) :=
  List.forall_mem_cons.mpr ⟨first, others⟩

theorem allowed_nil : Allowed [] :=
  fun _ inside => nomatch inside

theorem allowed_spaces (n : Nat) : Allowed (spaces n) := by
  intro c inside
  rw [List.eq_of_mem_replicate inside]
  decide

theorem isAllowed_of_isPrintable {c : Char} (printable : isPrintable c = true) : isAllowed c = true := by
  simp only [isPrintable, isAllowed, Bool.or_eq_true, Bool.and_eq_true, beq_iff_eq, bne_iff_ne,
    decide_eq_true_eq] at *
  omega

theorem allowed_of_isPrintable (printable : s.all isPrintable = true) : Allowed s :=
  fun c inside => isAllowed_of_isPrintable (List.all_eq_true.mp printable c inside)

theorem allowed_hex (width n : Nat) : Allowed (hex width n) :=
  Scan.forall_mem_hex (by decide)

theorem allowed_doubleCharacter (c : Char) : Allowed (doubleCharacter c) := by
  unfold doubleCharacter
  split
  · rename_i plain
    simp only [Bool.and_eq_true] at plain
    exact .cons (isAllowed_of_isPrintable plain.1.1.1) allowed_nil
  · refine .cons rfl ?_
    split
    case h_15 =>
      split
      · exact .cons rfl (allowed_hex _ _)
      · split <;> exact .cons rfl (allowed_hex _ _)
    all_goals exact .cons rfl allowed_nil

theorem allowed_singleInside (indent : Nat) (afterBreak : Bool) (allowed : Allowed s) :
    Allowed (singleInside indent afterBreak s) := by
  induction s generalizing afterBreak with
  | nil =>
    cases afterBreak
    · exact allowed_nil
    · exact allowed_spaces indent
  | cons c s ih =>
    obtain ⟨first, others⟩ := List.forall_mem_cons.mp allowed
    unfold singleInside
    split
    · exact .cons first (ih _ others)
    · split
      · exact .cons first (ih _ others)
      · refine .append (.append ?_ ?_) (ih _ others)
        · split
          · exact allowed_spaces indent
          · exact allowed_nil
        · split
          · exact .cons first (.cons first allowed_nil)
          · exact .cons first allowed_nil

theorem allowed_literalLines (indent : Nat) (atStart : Bool) (allowed : Allowed s) :
    Allowed (literalLines indent atStart s) := by
  induction s generalizing atStart with
  | nil => exact allowed_nil
  | cons c s ih =>
    obtain ⟨first, others⟩ := List.forall_mem_cons.mp allowed
    unfold literalLines
    split
    · exact .cons first (ih _ others)
    · refine .append ?_ (.cons first (ih _ others))
      split
      · exact allowed_spaces indent
      · exact allowed_nil

theorem allowed_literalHints (s : List Char) : Allowed (literalHints s) := by
  rw [Scan.literalHints_eq]
  generalize Scan.isHinted s = hinted
  generalize Scan.chompingOf s = chomping
  intro c
  cases hinted <;> cases chomping <;> revert c <;> simp [Scan.hintMark, Scan.chompingMark] <;> decide

theorem allowed_tagText (name : String) : Allowed (tagText name) := by
  unfold tagText
  split
  · exact List.all_eq_true.mp rfl
  · refine .cons rfl fun c inside => ?_
    obtain ⟨d, _, inside⟩ := List.mem_flatMap.mp inside
    split at inside
    · rename_i literal
      obtain ⟨low, high⟩ := Scan.bounds_of_isTagLiteral literal
      rw [List.mem_singleton.mp inside]
      simp only [isAllowed, Bool.or_eq_true, Bool.and_eq_true, beq_iff_eq, decide_eq_true_eq]
      omega
    · obtain ⟨byte, _, inside⟩ := List.mem_flatMap.mp inside
      rcases List.mem_cons.mp inside with rfl | inside
      · rfl
      · exact allowed_hex _ _ c inside

theorem allowed_closing (s : List Char) : Allowed (Scan.closing s) := by
  intro c inside
  rw [Scan.mem_closing inside]
  rfl

theorem Enclosed.allowed {column : Nat} {tokens : List Token} (enclosed : Enclosed column s tokens) : Allowed s := by
  cases enclosed with
  | single s fits _ =>
    simp only [fitsSingle, Bool.and_eq_true] at fits
    exact .cons rfl (.append (allowed_singleInside _ _ (allowed_of_isPrintable fits.1.1)) (.cons rfl allowed_nil))
  | double s =>
    refine .cons rfl (.append (fun c inside => ?_) (.cons rfl allowed_nil))
    obtain ⟨d, _, inside⟩ := List.mem_flatMap.mp inside
    exact allowed_doubleCharacter d c inside
  | sequence => exact .cons rfl (.cons rfl allowed_nil)
  | mapping => exact .cons rfl (.cons rfl allowed_nil)

theorem Written.allowed {column : Nat} {tokens : List Token} (written : Written column s tokens) : Allowed s := by
  cases written with
  | plain s _ fits =>
    simp only [fitsPlain, Bool.and_eq_true] at fits
    exact allowed_of_isPrintable fits.1.1.1.1.1
  | enclosed enclosed => exact enclosed.allowed
  | literal s fits =>
    simp only [fitsLiteral, Bool.and_eq_true] at fits
    exact .cons rfl (.append (allowed_literalHints _)
      (.cons rfl (allowed_literalLines _ _ (allowed_of_isPrintable fits.1.1.2))))

theorem allowed_leadText (place : Place) (tag : Option String) (collection : Bool) :
    Allowed (leadText place tag collection) := by
  have blank (b : Bool) : Allowed (if b then [' '] else []) := by
    cases b
    · exact allowed_nil
    · exact .cons rfl allowed_nil
  cases tag with
  | none =>
    cases collection
    · exact blank _
    · exact allowed_nil
  | some name =>
    refine (blank _).append ((allowed_tagText name).append ?_)
    cases collection
    · exact .cons rfl allowed_nil
    · exact allowed_nil

theorem allowed_opening (sameLine : Bool) (column : Nat) : Allowed (opening sameLine column) := by
  cases sameLine
  · exact .cons rfl (allowed_spaces column)
  · exact .cons rfl allowed_nil

theorem allowed_between {α : Type} (column : Nat) (more : List α) : Allowed (between column more) := by
  unfold between
  split
  · exact allowed_nil
  · exact allowed_spaces column

theorem allowed_keyText (column : Nat) (tag tag' : Option String) (key : Value)
    (simple : isSimpleKey tag' key = true) : Allowed (keyText column tag key) := by
  match key with
  | .tagged name value =>
    rw [keyText]
    exact allowed_keyText column (some name) (some name) value simple
  | .sequence (_ :: _) => cases simple
  | .mapping (_ :: _) => cases simple
  | .null | .bool _ | .int _ | .float _ | .text _ | .sequence [] | .mapping [] =>
    rw [keyText_leaf rfl]
    exact (allowed_leadText _ _ _).append (written_leaf _ rfl).allowed

mutual

theorem allowed_nodeText (place : Place) (column : Nat) (tag : Option String) (value : Value) :
    Allowed (nodeText place column tag value) := by
  match value with
  | .tagged name value =>
    rw [nodeText]
    exact allowed_nodeText place column (some name) value
  | .sequence (item :: items) =>
    rw [nodeText]
    exact (allowed_leadText _ _ _).append ((allowed_opening _ _).append (allowed_itemsText _ (item :: items)))
  | .mapping (entry :: entries) =>
    rw [nodeText]
    exact (allowed_leadText _ _ _).append ((allowed_opening _ _).append (allowed_entriesText _ (entry :: entries)))
  | .null | .bool _ | .int _ | .float _ | .text _ | .sequence [] | .mapping [] =>
    rw [nodeText_leaf rfl, leafLine]
    exact (allowed_leadText _ _ _).append ((written_leaf _ rfl).allowed.append (allowed_closing _))

theorem allowed_itemsText (column : Nat) (items : List Value) : Allowed (itemsText column items) := by
  match items with
  | [] =>
    rw [itemsText]
    exact allowed_nil
  | item :: items =>
    rw [itemsText]
    exact .cons rfl ((allowed_nodeText _ _ _ item).append ((allowed_between _ _).append (allowed_itemsText _ items)))

theorem allowed_entriesText (column : Nat) (entries : List (Value × Value)) :
    Allowed (entriesText column entries) := by
  match entries with
  | [] =>
    rw [entriesText]
    exact allowed_nil
  | (key, value) :: entries =>
    rw [entriesText]
    refine .append ?_ ((allowed_between _ _).append (allowed_entriesText _ entries))
    split
    · rename_i simple
      exact (allowed_keyText _ _ _ key simple).append (.cons rfl (allowed_nodeText _ _ _ value))
    · exact .cons rfl ((allowed_nodeText _ _ _ key).append
        ((allowed_spaces _).append (.cons rfl (allowed_nodeText _ _ _ value))))

end

/-! ### Keys on one line -/

theorem bytes_append (s t : List Char) : Cursor.bytes (s ++ t) = Cursor.bytes s + Cursor.bytes t := by
  induction s with
  | nil => simp [Cursor.bytes]
  | cons c s ih =>
    change c.utf8Size + Cursor.bytes (s ++ t) = c.utf8Size + Cursor.bytes s + Cursor.bytes t
    omega

theorem bytes_cons (c : Char) (s : List Char) : Cursor.bytes (c :: s) = c.utf8Size + Cursor.bytes s :=
  rfl

theorem bytes_toList (s : String) : Cursor.bytes s.toList = s.utf8ByteSize := by
  have (s : List Char) : (String.ofList s).utf8ByteSize = Cursor.bytes s := by
    induction s with
    | nil => rfl
    | cons c s ih => rw [String.ofList_cons, String.utf8ByteSize_append, String.utf8ByteSize_singleton, ih, bytes_cons]
  rw [← this, String.ofList_toList]

theorem bytes_le (s : List Char) : Cursor.bytes s ≤ 4 * s.length := by
  induction s with
  | nil => exact Nat.le_refl _
  | cons c s ih =>
    have := c.utf8Size_le_four
    rw [bytes_cons, List.length_cons]
    omega

/-- What is written for each character bounds what is written for a text. -/
theorem bytes_flatMap_le {write : Char → List Char} {factor : Nat}
    (each : ∀ c, Cursor.bytes (write c) ≤ factor * c.utf8Size) (s : List Char) :
    Cursor.bytes (s.flatMap write) ≤ factor * Cursor.bytes s := by
  induction s with
  | nil => exact Nat.zero_le _
  | cons c s ih =>
    have := each c
    rw [List.flatMap_cons, bytes_append, bytes_cons, Nat.mul_add]
    omega

theorem utf8Size_bounds (c : Char) :
    0 < c.utf8Size ∧ (0x7F < c.toNat → 2 ≤ c.utf8Size) ∧ (0xFFFF < c.toNat → c.utf8Size = 4) := by
  have value : c.toNat = c.val.toNat := rfl
  unfold Char.utf8Size
  dsimp only
  simp only [UInt32.le_iff_toNat_le, value]
  split
  · simp at *
    omega
  · split
    · simp at *
      omega
    · split
      · simp at *
        omega
      · simp at *

theorem bytes_eq_length (ascii : ∀ c ∈ s, c.utf8Size = 1) : Cursor.bytes s = s.length := by
  induction s with
  | nil => rfl
  | cons c s ih =>
    obtain ⟨first, others⟩ := List.forall_mem_cons.mp ascii
    rw [bytes_cons, first, ih others, List.length_cons, Nat.add_comm]

theorem bytes_hex {width n : Nat} (positive : 0 < width) (small : n < 16 ^ width) : Cursor.bytes (hex width n) = width := by
  rw [bytes_eq_length (Scan.forall_mem_hex (by decide)), Scan.length_hex positive small]

theorem bytes_doubleCharacter (c : Char) : Cursor.bytes (doubleCharacter c) ≤ 4 * c.utf8Size := by
  obtain ⟨some, beyondAscii, beyondPlane⟩ := utf8Size_bounds c
  unfold doubleCharacter
  split
  · change c.utf8Size ≤ _
    omega
  · rw [bytes_cons]
    split
    case h_15 =>
      have small : c.toNat < 16 ^ 8 := c.val.toNat_lt
      have size : '\\'.utf8Size = 1 := rfl
      split
      · rw [bytes_cons, bytes_hex (by decide) (by omega), size, show 'x'.utf8Size = 1 from rfl]
        omega
      · split
        · rw [bytes_cons, bytes_hex (by decide) (by omega), size, show 'u'.utf8Size = 1 from rfl]
          omega
        · rw [bytes_cons, bytes_hex (by decide) small, size, show 'U'.utf8Size = 1 from rfl]
          omega
    all_goals decide

theorem bytes_singleInside (indent : Nat) (oneLine : s.any isBreak = false) :
    Cursor.bytes (singleInside indent false s) ≤ 2 * Cursor.bytes s := by
  induction s with
  | nil => exact Nat.le_refl _
  | cons c s ih =>
    simp only [List.any_cons, Bool.or_eq_false_iff] at oneLine
    have others := ih oneLine.2
    simp only [singleInside, oneLine.1, Bool.false_eq_true, ↓reduceIte, List.nil_append]
    split
    · rw [bytes_cons, bytes_cons]
      omega
    · rw [bytes_append, bytes_cons]
      split
      · rw [bytes_cons, bytes_cons, show Cursor.bytes [] = 0 from rfl]
        omega
      · rw [bytes_cons, show Cursor.bytes [] = 0 from rfl]
        omega

theorem bytes_tagCharacter (c : Char) : Cursor.bytes (Scan.tagCharacter c) ≤ 3 * c.utf8Size := by
  have escapes (bytes : List UInt8) :
      Cursor.bytes (bytes.flatMap fun byte => '%' :: hex 2 byte.toNat) = 3 * bytes.length := by
    induction bytes with
    | nil => rfl
    | cons byte bytes ih =>
      rw [List.flatMap_cons, bytes_append, bytes_cons, bytes_hex (by decide) byte.toNat_lt, ih, List.length_cons,
        show '%'.utf8Size = 1 from rfl]
      omega
  unfold Scan.tagCharacter
  split
  · change c.utf8Size ≤ _
    omega
  · rw [toUTF8_singleton, escapes, String.length_utf8EncodeChar]

theorem bytes_tagText (name : String) : Cursor.bytes (tagText name) ≤ 3 * tagSize (some name) + 3 := by
  rw [tagText, tagSize]
  split
  · decide
  · have characters := bytes_flatMap_le bytes_tagCharacter (tagSuffix name)
    have size := bytes_toList (String.ofList (tagSuffix name))
    rw [String.toList_ofList] at size
    have written : tagCharacters (tagSuffix name) = (tagSuffix name).flatMap Scan.tagCharacter := rfl
    rw [bytes_cons, written, show '!'.utf8Size = 1 from rfl]
    omega

theorem onLine_singleInside (indent : Nat) (onLine : Spot.OnLine s) : Spot.OnLine (singleInside indent false s) := by
  induction s with
  | nil => exact Spot.onLine_nil
  | cons c s ih =>
    obtain ⟨first, others⟩ := List.forall_mem_cons.mp onLine
    simp only [singleInside, first, Bool.false_eq_true, ↓reduceIte, List.nil_append]
    split
    · exact .cons first (ih others)
    · refine .append ?_ (ih others)
      split
      · exact .cons first (Spot.onLine_singleton first)
      · exact Spot.onLine_singleton first

theorem onLine_of_fitsPlain (fits : fitsPlain s = true) : Spot.OnLine s := by
  simp only [fitsPlain, Bool.and_eq_true, Bool.not_eq_true', List.any_eq_false] at fits
  exact fun c inside => Bool.eq_false_iff.mpr (fits.1.1.1.1.2 c inside)

/-- A text without line breaks is written on one line, which is not much longer. -/
theorem scalarText_onLine (column : Nat) {s : String} (onLine : Spot.OnLine s.toList) :
    Spot.OnLine (scalarText column s) ∧ Cursor.bytes (scalarText column s) ≤ 4 * s.utf8ByteSize + 2 := by
  have size := bytes_toList s
  unfold scalarText
  obtain ⟨style, lineFeed, -⟩ | ⟨style, -, fits⟩ | ⟨style, -, fits⟩ | style := styleOf_cases s
  · exact absurd (onLine _ lineFeed) (by decide)
  · rw [style]
    exact ⟨onLine, by dsimp only; omega⟩
  · have oneLine : s.toList.any isBreak = false := by
      rw [List.any_eq_false]
      exact fun c inside => by simp [onLine c inside]
    have inner := bytes_singleInside column oneLine
    rw [style]
    refine ⟨.cons rfl (.append (onLine_singleInside column onLine) (Spot.onLine_singleton rfl)), ?_⟩
    simp only [List.cons_append, bytes_cons, bytes_append, show '\''.utf8Size = 1 from rfl,
      show Cursor.bytes [] = 0 from rfl]
    omega
  · have inner := bytes_flatMap_le bytes_doubleCharacter s.toList
    rw [style]
    refine ⟨.cons rfl (.append (fun c inside => ?_) (Spot.onLine_singleton rfl)), ?_⟩
    · obtain ⟨d, _, inside⟩ := List.mem_flatMap.mp inside
      exact Scan.onLine_doubleCharacter d c inside
    · simp only [List.cons_append, bytes_cons, bytes_append, show '"'.utf8Size = 1 from rfl,
        show Cursor.bytes [] = 0 from rfl]
      omega

theorem bytes_leadText (tag : Option String) : Cursor.bytes (leadText .key tag false) ≤ 3 * tagSize tag + 4 := by
  cases tag with
  | none => exact Nat.zero_le _
  | some name =>
    have tag := bytes_tagText name
    change Cursor.bytes (tagText name ++ [' ']) ≤ _
    rw [bytes_append, show Cursor.bytes [' '] = 1 from rfl]
    omega

/-- A key in front of its colon stands on one line, and its start is not forgotten there. -/
theorem keyText_onLine (column : Nat) (tag : Option String) (key : Value) (simple : isSimpleKey tag key = true) :
    Spot.OnLine (keyText column tag key) ∧ Cursor.bytes (keyText column tag key) ≤ 1024 := by
  have lead := bytes_leadText tag
  have leaf (text : List Char) (onLine : Spot.OnLine text) (short : 3 * tagSize tag + Cursor.bytes text ≤ 1000) :
      Spot.OnLine (leadText .key tag false ++ text) ∧ Cursor.bytes (leadText .key tag false ++ text) ≤ 1024 := by
    refine ⟨(onLine_leadText _ _ _).append onLine, ?_⟩
    rw [bytes_append]
    omega
  have plain (key : Value) (isLeaf : isLeaf key = true) (fits : fitsPlain (leafText (column + 2) key) = true)
      (limit : tagSize tag + (leafText (column + 2) key).length ≤ 128) :
      Spot.OnLine (keyText column tag key) ∧ Cursor.bytes (keyText column tag key) ≤ 1024 := by
    have short := bytes_le (leafText (column + 2) key)
    rw [keyText_leaf isLeaf]
    exact leaf _ (onLine_of_fitsPlain fits) (by omega)
  match key with
  | .tagged name value =>
    rw [keyText]
    exact keyText_onLine column (some name) value simple
  | .sequence (_ :: _) => cases simple
  | .mapping (_ :: _) => cases simple
  | .text s =>
    simp only [isSimpleKey, Bool.and_eq_true, Bool.not_eq_true', List.any_eq_false] at simple
    have limit : tagSize tag + s.utf8ByteSize ≤ 128 := of_decide_eq_true simple.2
    obtain ⟨onLine, short⟩ := scalarText_onLine (column + 2) (s := s) fun c inside =>
      Bool.eq_false_iff.mpr (simple.1 c inside)
    rw [keyText_leaf rfl]
    exact leaf _ onLine (by dsimp only [leafText]; omega)
  | .sequence [] | .mapping [] =>
    simp only [isSimpleKey, Bool.and_eq_true] at simple
    have limit : tagSize tag ≤ 128 := of_decide_eq_true simple.2
    rw [keyText_leaf rfl]
    exact leaf _ (.cons rfl (Spot.onLine_singleton rfl)) (Nat.le_trans (Nat.add_le_add_left (bytes_le _) _)
      (by simp only [leafText, List.length_cons, List.length_nil]; omega))
  | .null => exact plain .null rfl rfl (of_decide_eq_true simple)
  | .bool b => exact plain (.bool b) rfl (by cases b <;> rfl) (of_decide_eq_true simple)
  | .int n => exact plain (.int n) rfl (fitsPlain_toString n) (of_decide_eq_true simple)
  | .float x => exact plain (.float x) rfl (fitsPlain_floatText x).2 (of_decide_eq_true simple)

end Upkeep.Yaml.Printer
