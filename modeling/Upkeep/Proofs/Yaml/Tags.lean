import Upkeep.Proofs.Yaml.QuotedScalars
import Upkeep.Yaml.Node
import Upkeep.Yaml.Printer
import Upkeep.Yaml.Reader
import Upkeep.Yaml.Token.Property

/-! Tags are scanned as they were written, byte by byte where a character is escaped, and stand for
the name that they were written from. This holds of names that do not start with the mark of tags
and have no character in them that is written as it is, but that no tag may hold. -/
namespace Upkeep.Yaml

open Printer (hex isTagLiteral tagCharacters)

/-! ### Escaped characters -/

theorem toList_loop_eq (bytes : ByteArray) (i : Nat) (acc : List UInt8) :
    ByteArray.toList.loop bytes i acc = acc.reverse ++ bytes.data.toList.drop i := by
  fun_induction ByteArray.toList.loop bytes i acc with
  | case1 i acc inside ih =>
    have inside' : i < bytes.data.toList.length := by simpa using inside
    rw [ih, List.drop_eq_getElem_cons inside']
    simp [ByteArray.get!, inside]
  | case2 i acc outside =>
    rw [List.drop_eq_nil_of_le (by simpa using Nat.le_of_not_lt outside)]
    simp

theorem toUTF8_singleton (c : Char) : (String.singleton c).toUTF8.toList = String.utf8EncodeChar c := by
  rw [String.toUTF8, String.toByteArray_singleton, List.utf8Encode_singleton, ByteArray.toList, toList_loop_eq]
  simp [List.data_toByteArray]

namespace Scan

theorem escapedByte?_hex (byte : UInt8) (rest : List Char) :
    escapedByte? ('%' :: (hex 2 byte.toNat ++ rest)) = some (byte, rest) := by
  have length := length_hex (by decide : 0 < 2) (show byte.toNat < 16 ^ 2 from byte.toNat_lt)
  have value := numeral?_hex 2 byte.toNat
  match hex 2 byte.toNat, length, value with
  | [a, b], _, value => simp [escapedByte?, value]

theorem escapedBytes?_hex (bytes : List UInt8) (rest : List Char) :
    escapedBytes? bytes.length (bytes.flatMap (fun byte => '%' :: hex 2 byte.toNat) ++ rest) =
      some (bytes, rest) := by
  induction bytes with
  | nil => rfl
  | cons byte bytes ih =>
    simp only [List.length_cons, escapedBytes?, List.flatMap_cons, List.cons_append, List.append_assoc,
      escapedByte?_hex]
    simp [ih]

theorem encodedLength?_utf8EncodeChar (c : Char) : ∃ first others,
    String.utf8EncodeChar c = first :: others ∧ encodedLength? first.toNat = some (others.length + 1) := by
  have modulo (n : Nat) (small : n < 256) : (UInt8.ofNat n).toNat = n := by simpa using small
  unfold String.utf8EncodeChar encodedLength?
  dsimp only
  split
  · refine ⟨_, _, rfl, ?_⟩
    rw [modulo _ (by omega), if_pos (by omega)]
    rfl
  · split
    · refine ⟨_, _, rfl, ?_⟩
      rw [modulo _ (by omega), if_neg (by omega), if_pos (by simp; omega)]
      rfl
    · split
      · refine ⟨_, _, rfl, ?_⟩
        rw [modulo _ (by omega), if_neg (by omega), if_neg (by simp), if_pos (by simp; omega)]
        rfl
      · refine ⟨_, _, rfl, ?_⟩
        rw [modulo _ (by omega), if_neg (by omega), if_neg (by simp), if_neg (by simp), if_pos (by simp; omega)]
        rfl

theorem fromUTF8?_utf8EncodeChar (c : Char) :
    String.fromUTF8? ⟨(String.utf8EncodeChar c).toArray⟩ = some (String.singleton c) := by
  have bytes : (⟨(String.utf8EncodeChar c).toArray⟩ : ByteArray) = (String.singleton c).toByteArray := by
    rw [String.toByteArray_singleton, List.utf8Encode_singleton]
    exact ByteArray.ext List.data_toByteArray.symm
  rw [bytes, String.fromUTF8?, dif_pos (String.singleton c).isValidUTF8]
  rfl

/-- A character is read back from the escapes of its bytes. -/
theorem escapedCharacter?_bytes (c : Char) (rest : List Char) :
    escapedCharacter? ((String.singleton c).toUTF8.toList.flatMap (fun byte => '%' :: hex 2 byte.toNat) ++ rest) =
      some ([c], rest) := by
  obtain ⟨first, others, form, length⟩ := encodedLength?_utf8EncodeChar c
  have bytes := escapedBytes?_hex (first :: others) rest
  have decoded := fromUTF8?_utf8EncodeChar c
  have start : escapedByte? ((first :: others).flatMap (fun byte => '%' :: hex 2 byte.toNat) ++ rest) =
      some (first, others.flatMap (fun byte => '%' :: hex 2 byte.toNat) ++ rest) := by
    rw [List.flatMap_cons, List.cons_append, List.cons_append, List.append_assoc, escapedByte?_hex]
  rw [List.length_cons] at bytes
  rw [form] at decoded
  rw [toUTF8_singleton, form, escapedCharacter?, start]
  simp only [Option.bind_eq_bind, Option.bind_some, length, bytes, decoded]
  simp

/-! ### The characters of a tag -/

/-- A name whose characters are read back from a tag: the marks of flow collections are written as
they are, but no tag holds them. -/
def HeldByTag (name : List Char) : Prop :=
  ∀ c ∈ name, c ≠ ',' ∧ c ≠ '[' ∧ c ≠ ']'

instance (name : List Char) : Decidable (HeldByTag name) :=
  List.decidableBAll _ name

/-- A character as a tag holds it. -/
def tagCharacter (c : Char) : List Char :=
  if isTagLiteral c then [c]
  else (String.singleton c).toUTF8.toList.flatMap fun byte => '%' :: hex 2 byte.toNat

theorem tagCharacters_cons (c : Char) (s : List Char) : tagCharacters (c :: s) = tagCharacter c ++ tagCharacters s :=
  List.flatMap_cons

/-- A character is held as it is, or as the escapes of its bytes. -/
theorem tagCharacter_cases (c : Char) : isTagLiteral c = true ∧ tagCharacter c = [c] ∨
    isTagLiteral c = false ∧ ∃ rest, tagCharacter c = '%' :: rest := by
  unfold tagCharacter
  cases literal : isTagLiteral c with
  | true => exact .inl ⟨rfl, rfl⟩
  | false =>
    obtain ⟨first, others, form, _⟩ := encodedLength?_utf8EncodeChar c
    rw [toUTF8_singleton, form]
    exact .inr ⟨rfl, _, rfl⟩

/-- What follows a tag. -/
def EndsTag (tail : List Char) : Prop :=
  ∃ rest, tail = ' ' :: rest ∨ tail = '\n' :: rest

theorem tagText_ends {tail : List Char} (ends : EndsTag tail) (fuel : Nat) :
    Scan.tagText false fuel tail = .ok ([], tail) := by
  obtain ⟨rest, rfl | rfl⟩ := ends <;> cases fuel <;> rfl

theorem isTagCharacter_of_isTagLiteral {c : Char} (literal : isTagLiteral c = true)
    (held : c ≠ ',' ∧ c ≠ '[' ∧ c ≠ ']') : isTagCharacter false c = true := by
  simp only [isTagLiteral, isTagCharacter, Bool.or_eq_true, List.contains_cons, beq_iff_eq, List.contains_nil] at *
  grind

theorem tagText_characters {s tail : List Char} (held : HeldByTag s) (ends : EndsTag tail) {fuel : Nat}
    (enough : s.length ≤ fuel) : Scan.tagText false fuel (tagCharacters s ++ tail) = .ok (s, tail) := by
  induction s generalizing fuel with
  | nil => exact tagText_ends ends fuel
  | cons c s ih =>
    obtain ⟨first, others⟩ := List.forall_mem_cons.mp held
    obtain ⟨fuel, rfl⟩ := Nat.exists_eq_add_of_le' (show 1 ≤ fuel by simp at enough; omega)
    have more := ih others (by simpa using enough)
    rw [tagCharacters_cons, List.append_assoc]
    obtain ⟨literal, form⟩ | ⟨noLiteral, rest, form⟩ := tagCharacter_cases c
    · have noEscape : (c == '%') = false := by
        rw [beq_eq_false_iff_ne]
        rintro rfl
        cases literal
      rw [form, List.singleton_append]
      simp [Scan.tagText, noEscape, isTagCharacter_of_isTagLiteral literal first, more, Except.map]
    · have escaped := escapedCharacter?_bytes c (tagCharacters s ++ tail)
      have written : tagCharacter c = (String.singleton c).toUTF8.toList.flatMap fun byte => '%' :: hex 2 byte.toNat := by
        rw [tagCharacter, noLiteral]
        rfl
      rw [← written, form] at escaped
      rw [form]
      simp only [List.cons_append] at escaped ⊢
      simp [Scan.tagText, escaped, more, Except.map]

theorem bounds_of_range {c : Char} (low high : UInt32) (range : low ≤ c.val ∧ c.val ≤ high) :
    low.toNat ≤ c.toNat ∧ c.toNat ≤ high.toNat :=
  range.imp UInt32.le_iff_toNat_le.mp UInt32.le_iff_toNat_le.mp

/-- What a tag holds as it is are visible characters of ASCII. -/
theorem bounds_of_isTagLiteral {c : Char} (literal : isTagLiteral c = true) : 0x20 < c.toNat ∧ c.toNat < 0x7F := by
  have marks : ∀ c ∈ [';', '/', '?', ':', '@', '&', '=', '+', '$', ',', '.', '~', '*', '\'', '(', ')', '[', ']'],
      0x20 < c.toNat ∧ c.toNat < 0x7F := by simp
  rw [isTagLiteral, Bool.or_eq_true] at literal
  rcases literal with word | mark
  · change ((((c.isUpper || c.isLower) || c.isDigit) || c == '-') || c == '_') = true at word
    simp only [Bool.or_eq_true, beq_iff_eq] at word
    rcases word with (((upper | lower) | digit) | rfl) | rfl
    · obtain ⟨low, high⟩ := bounds_of_range 65 90 (of_decide_eq_true upper)
      exact ⟨Nat.lt_of_lt_of_le (by decide) low, Nat.lt_of_le_of_lt high (by decide)⟩
    · obtain ⟨low, high⟩ := bounds_of_range 97 122
        ((Bool.and_eq_true_iff.mp lower).imp of_decide_eq_true of_decide_eq_true)
      exact ⟨Nat.lt_of_lt_of_le (by decide) low, Nat.lt_of_le_of_lt high (by decide)⟩
    · obtain ⟨low, high⟩ := bounds_of_range 48 57
        ((Bool.and_eq_true_iff.mp digit).imp of_decide_eq_true of_decide_eq_true)
      exact ⟨Nat.lt_of_lt_of_le (by decide) low, Nat.lt_of_le_of_lt high (by decide)⟩
    · decide
    · decide
  · exact marks c (by simpa using mark)

theorem not_isBreak_of_bounds {c : Char} (bounds : 0x20 < c.toNat ∧ c.toNat < 0x7F) : isBreak c = false := by
  rw [← Bool.not_eq_true]
  intro lineBreak
  simp only [isBreak, Bool.or_eq_true, beq_iff_eq] at lineBreak
  rcases lineBreak with (((rfl | rfl) | rfl) | rfl) | rfl <;> exact absurd bounds (by decide)

theorem onLine_tagCharacters (s : List Char) : Spot.OnLine (tagCharacters s) := by
  intro c inside
  obtain ⟨d, _, inside⟩ := List.mem_flatMap.mp inside
  split at inside
  · rename_i literal
    rw [List.mem_singleton.mp inside]
    exact not_isBreak_of_bounds (bounds_of_isTagLiteral literal)
  · obtain ⟨byte, _, inside⟩ := List.mem_flatMap.mp inside
    rcases List.mem_cons.mp inside with rfl | inside
    · rfl
    · exact forall_mem_hex (P := fun c => isBreak c = false) (by decide) c inside

theorem length_le_tagCharacters (s : List Char) : s.length ≤ (tagCharacters s).length := by
  induction s with
  | nil => exact Nat.le_refl _
  | cons c s ih =>
    rw [tagCharacters_cons, List.length_append, List.length_cons]
    obtain ⟨_, form⟩ | ⟨_, rest, form⟩ := tagCharacter_cases c
    all_goals
      rw [form, List.length_cons]
      omega

/-- The characters of a tag at a place. -/
theorem tagTextAt_characters {s tail : List Char} (held : HeldByTag s) (ends : EndsTag tail) (p : Spot) :
    tagTextAt false (p.cursor (tagCharacters s ++ tail)) = .ok (s, (p.after (tagCharacters s)).cursor tail) := by
  have enough : s.length ≤ (tagCharacters s ++ tail).length := by
    have := length_le_tagCharacters s
    rw [List.length_append]
    omega
  rw [tagTextAt, Spot.rest_cursor, tagText_characters held ends enough]
  simp [Except.map, Spot.skip_cursor (onLine_tagCharacters s)]

/-! ### Whole tags -/

/-- A name that is read back from its tag: the mark alone, or a name that does not start with it. -/
def ReadsBack (name : String) : Prop :=
  name = "!" ∨ name ≠ "" ∧ name.toList.head? ≠ some '!' ∧ HeldByTag name.toList

instance (name : String) : Decidable (ReadsBack name) :=
  inferInstanceAs (Decidable (_ ∨ _ ∧ _ ∧ HeldByTag name.toList))

/-- The token of a tag. -/
def tagToken (name : String) : Token :=
  if name = "!" then .tag "" "!" else .tag "!" name

/-- The full tag for a name. -/
def fullTag (name : String) : String :=
  if name = "!" then "!" else "!" ++ name

theorem fullTag_tagToken (name : String) : ∃ handle suffix, tagToken name = .tag handle suffix ∧
    Node.fullTag Document.standardHandles handle suffix = .ok (fullTag name) := by
  unfold tagToken fullTag
  split
  · exact ⟨_, _, rfl, rfl⟩
  · exact ⟨_, _, rfl, rfl⟩

theorem localTag?_fullTag {name : String} (readsBack : ReadsBack name) : Value.localTag? (fullTag name) = some name := by
  unfold fullTag
  split
  · rename_i isMark
    subst isMark
    decide
  · rename_i noMark
    obtain ⟨nonempty, noMark, _⟩ := readsBack.resolve_left noMark
    obtain ⟨c, rest, form⟩ := List.exists_cons_of_ne_nil (mt String.toList_eq_nil_iff.mp nonempty)
    have other : c ≠ '!' := by
      rintro rfl
      exact noMark (by rw [form]; rfl)
    have tag : ("!" ++ name).toList = '!' :: c :: rest := by simp [form]
    have unmarked : Value.unmarked (c :: rest) = c :: rest := by
      unfold Value.unmarked
      split
      · rename_i form
        exact absurd (List.cons.inj form).1 other
      · rfl
    have start : Value.unmarked ('!' :: c :: rest) = c :: rest := rfl
    simp only [Value.localTag?, tag, start, unmarked]
    rw [← form, String.ofList_toList]

/-- The mark alone, which is written in verbatim form. -/
theorem tag_mark {tail : List Char} (ends : EndsTag tail) (p : Spot) :
    Scan.tag false (p.cursor (Printer.tagText "!" ++ tail)) =
      .ok (tagToken "!", (p.after (Printer.tagText "!")).cursor tail) := by
  have escaped : escapedCharacter? ('%' :: '2' :: '1' :: '>' :: tail) = some (['!'], '>' :: tail) := by
    have escaped := escapedCharacter?_bytes '!' ('>' :: tail)
    rwa [toUTF8_singleton] at escaped
  have start : (p.cursor ('!' :: '<' :: '%' :: '2' :: '1' :: '>' :: tail)).skip 2 =
      (p.after ['!', '<']).cursor ('%' :: '2' :: '1' :: '>' :: tail) := rfl
  have text : tagTextAt true ((p.after ['!', '<']).cursor ('%' :: '2' :: '1' :: '>' :: tail)) =
      .ok (['!'], (p.after ['!', '<', '%', '2', '1']).cursor ('>' :: tail)) := by
    have isEscape : ('%' == '%') = true := rfl
    have noMore : ('>' == '%') = false := rfl
    have noTag : isTagCharacter true '>' = false := by decide
    have skip : ((p.after ['!', '<']).cursor ('%' :: '2' :: '1' :: '>' :: tail)).skip 3 =
        (p.after ['!', '<', '%', '2', '1']).cursor ('>' :: tail) := rfl
    simp only [tagTextAt, Spot.rest_cursor, List.length_cons, Scan.tagText, isEscape, ↓reduceIte, escaped, noMore,
      noTag, Except.map]
    simp [skip]
  have ended : (((p.after ['!', '<', '%', '2', '1']).cursor ('>' :: tail)).skip 1).blankAt 0 = true := by
    obtain ⟨rest, rfl | rfl⟩ := ends <;> rfl
  change Scan.tag false (p.cursor ('!' :: '<' :: '%' :: '2' :: '1' :: '>' :: tail)) = _
  have verbatim : ((p.cursor ('!' :: '<' :: '%' :: '2' :: '1' :: '>' :: tail)).peekAt 1 == some '<') = true := rfl
  rw [Scan.tag, verbatim, start, if_pos rfl, text]
  exact if_pos (by rw [ended, Bool.true_or])

/-- What comes first in a tag, or behind one without characters. -/
theorem head_tagCharacters {s tail : List Char} (ends : EndsTag tail) : ∃ d rest, tagCharacters s ++ tail = d :: rest ∧
    (d = '%' ∨ (isTagLiteral d = true ∧ s.head? = some d) ∨ s = [] ∧ (d = ' ' ∨ d = '\n')) := by
  cases s with
  | nil =>
    obtain ⟨rest, rfl | rfl⟩ := ends
    · exact ⟨_, _, rfl, .inr (.inr ⟨rfl, .inl rfl⟩)⟩
    · exact ⟨_, _, rfl, .inr (.inr ⟨rfl, .inr rfl⟩)⟩
  | cons c s =>
    rw [tagCharacters_cons]
    obtain ⟨literal, form⟩ | ⟨_, rest, form⟩ := tagCharacter_cases c
    · exact ⟨c, tagCharacters s ++ tail, by rw [form]; rfl, .inr (.inl ⟨literal, rfl⟩)⟩
    · exact ⟨'%', rest ++ tagCharacters s ++ tail, by rw [form]; rfl, .inl rfl⟩

theorem tagCharacters_words {w : List Char} (words : ∀ c ∈ w, isWord c = true) (s : List Char) :
    tagCharacters (w ++ s) = w ++ tagCharacters s := by
  induction w with
  | nil => rfl
  | cons c w ih =>
    obtain ⟨first, others⟩ := List.forall_mem_cons.mp words
    have literal : tagCharacter c = [c] := by simp [tagCharacter, isTagLiteral, first]
    rw [List.cons_append, tagCharacters_cons, literal, ih others]
    rfl

/-- A suffix behind the mark. -/
theorem tag_suffix {s tail : List Char} (nonempty : s ≠ []) (held : HeldByTag s) (ends : EndsTag tail) (p : Spot) :
    Scan.tag false (p.cursor ('!' :: tagCharacters s ++ tail)) =
      .ok (Token.tag "!" (String.ofList s), (p.after ('!' :: tagCharacters s)).cursor tail) := by
  obtain ⟨w, v, rfl, words, behind⟩ := exists_span isWord s
  have heldBehind : HeldByTag v := fun c inside => held c (List.mem_append_right _ inside)
  have onLine : Spot.OnLine w := fun c inside =>
    not_isBreak_of_bounds (bounds_of_isTagLiteral (by simp [isTagLiteral, words c inside]))
  have written := tagCharacters_words words v
  have notVerbatim : ((p.cursor ('!' :: (tagCharacters (w ++ v) ++ tail))).peekAt 1 == some '<') = false := by
    obtain ⟨d, rest, form, first⟩ := head_tagCharacters (s := w ++ v) ends
    rw [form]
    rcases first with rfl | ⟨literal, -⟩ | ⟨empty, -⟩
    · rfl
    · have other : d ≠ '<' := by
        rintro rfl
        cases literal
      simpa [Cursor.peekAt] using other
    · exact absurd empty nonempty
  obtain ⟨d, rest, form, first⟩ := head_tagCharacters (s := v) ends
  have stops (c : Char) (head : (tagCharacters v ++ tail).head? = some c) : isWord c = false := by
    rw [form] at head
    obtain rfl := Option.some.inj head
    rcases first with rfl | ⟨-, head⟩ | ⟨-, rfl | rfl⟩
    · rfl
    · exact behind _ head
    · rfl
    · rfl
  have open' : (((p.after ['!']).after w).cursor (tagCharacters v ++ tail)).next '!' = false := by
    have other : d ≠ '!' := by
      rintro rfl
      rcases first with mark | ⟨literal, -⟩ | ⟨-, mark | mark⟩
      · cases mark
      · cases literal
      · cases mark
      · cases mark
    rw [form]
    simpa using other
  have skip : (p.cursor ('!' :: (w ++ (tagCharacters v ++ tail)))).skip 1 = _ := Spot.skip_cursor_cons rfl
  have handle : handleText (p.cursor ('!' :: (w ++ (tagCharacters v ++ tail)))) =
      .ok ('!' :: w, false, ((p.after ['!']).after w).cursor (tagCharacters v ++ tail)) := by
    simp only [handleText, Spot.next_cursor_cons, beq_self_eq_true, Bool.not_true, Bool.false_eq_true, ↓reduceIte,
      skip, Spot.span_cursor onLine words stops, open']
  have places : ((p.after ['!']).after w).after (tagCharacters v) = p.after ('!' :: (w ++ tagCharacters v)) := by
    rw [← Spot.after_append, ← Spot.after_append]
    rfl
  have text := tagTextAt_characters heldBehind ends ((p.after ['!']).after w)
  have ended (q : Spot) : (q.cursor tail).blankAt 0 = true := by
    obtain ⟨rest, rfl | rfl⟩ := ends <;> rfl
  rw [List.cons_append, Scan.tag, notVerbatim, written, List.append_assoc, handle]
  simp only [Bool.false_eq_true, ↓reduceIte, ok_bind, text, List.drop_succ_cons, List.drop_zero, places]
  obtain ⟨c, behind, form⟩ := List.exists_cons_of_ne_nil nonempty
  rw [form]
  exact if_pos (by rw [ended, Bool.true_or])

/-- A tag is scanned as it was written. -/
theorem tag_name {name : String} (readsBack : ReadsBack name) {tail : List Char} (ends : EndsTag tail) (p : Spot) :
    Scan.tag false (p.cursor (Printer.tagText name ++ tail)) =
      .ok (tagToken name, (p.after (Printer.tagText name)).cursor tail) := by
  obtain rfl | ⟨nonempty, noMark, held⟩ := readsBack
  · exact tag_mark ends p
  · have isName : name ≠ "!" := by
      rintro rfl
      exact noMark rfl
    obtain ⟨c, rest, form⟩ := List.exists_cons_of_ne_nil (mt String.toList_eq_nil_iff.mp nonempty)
    have other : c ≠ '!' := by
      rintro rfl
      exact noMark (by rw [form]; rfl)
    have suffix : Printer.tagSuffix name = name.toList := by
      unfold Printer.tagSuffix
      split
      · rename_i marked
        rw [form] at marked
        exact absurd (List.cons.inj marked).1 other
      · rfl
    rw [Printer.tagText, if_neg isName, suffix, tagToken, if_neg isName]
    have scanned := tag_suffix (form ▸ List.cons_ne_nil c rest) held ends p
    rwa [String.ofList_toList] at scanned

end Scan

namespace Value

mutual

/-- Whether every tag in a value is read back from what is written for it. -/
def tagsReadBack : Value → Bool
  | .tagged name value => decide (Scan.ReadsBack name) && tagsReadBack value
  | .sequence items => itemsReadBack items
  | .mapping entries => entriesReadBack entries
  | _ => true

/-- The same for the items of a sequence. -/
def itemsReadBack : List Value → Bool
  | [] => true
  | item :: items => tagsReadBack item && itemsReadBack items

/-- The same for the entries of a mapping. -/
def entriesReadBack : List (Value × Value) → Bool
  | [] => true
  | (key, value) :: entries => tagsReadBack key && tagsReadBack value && entriesReadBack entries

end

end Value

end Upkeep.Yaml
