import Upkeep.Json.Reader
import Upkeep.Json.Value

/-! What is printed as JSON is read back. A text comes back character by character, and a value
collection by collection, whatever follows them. Values with numbers are left out: numbers are kept
as they are written, and only what follows one tells where it ends. -/
namespace Upkeep.Json

/-- A unit that is no half of a character gives a character by itself. -/
theorem joined?_unit {n : Nat} (notFirst : isFirstHalf n = false) (notSecond : isSecondHalf n = false)
    (pieces : List Piece) :
    joined? (.unit n :: pieces) = (joined? pieces).map (Char.ofNat n :: ·) := by
  match pieces with
  | [] => simp [joined?, notFirst, notSecond]
  | .unit m :: rest => simp [joined?, notFirst, notSecond]
  | .character c :: rest => simp [joined?, notFirst, notSecond, Function.comp_def]

/-- Four digits give back a control character. -/
private theorem numeral?_control :
    ∀ n < 0x20, Decimal.numeral? 16 ['0', '0', Nat.digitChar (n / 16), Nat.digitChar (n % 16)] =
      some n := by
  decide

/-- A character in quotes is read back as one part, which stands for the character. -/
theorem pieces?_quotedCharacter (c : Char) : ∃ piece,
    (∀ s, pieces? (quotedCharacter c ++ s) =
      (pieces? s).map fun (pieces, rest) => (piece :: pieces, rest)) ∧
    ∀ pieces, joined? (piece :: pieces) = (joined? pieces).map (c :: ·) := by
  have escaped {letter : Char} (stands : escape? letter = some c) (noUnit : letter ≠ 'u') :
      (∀ s, pieces? (['\\', letter] ++ s) =
        (pieces? s).map fun (pieces, rest) => (.character c :: pieces, rest)) := by
    intro s
    rw [List.cons_append, List.cons_append, List.nil_append, pieces?]
    · rw [stands]
      cases pieces? s <;> rfl
    · rintro a b c d rest rfl
      exact absurd rfl noUnit
  unfold quotedCharacter
  split
  · exact ⟨.character '"', escaped rfl (by decide), fun _ => rfl⟩
  · exact ⟨.character '\\', escaped rfl (by decide), fun _ => rfl⟩
  · exact ⟨.character '\x08', escaped rfl (by decide), fun _ => rfl⟩
  · exact ⟨.character '\x0c', escaped rfl (by decide), fun _ => rfl⟩
  · exact ⟨.character '\n', escaped rfl (by decide), fun _ => rfl⟩
  · exact ⟨.character '\r', escaped rfl (by decide), fun _ => rfl⟩
  · exact ⟨.character '\t', escaped rfl (by decide), fun _ => rfl⟩
  · rename_i noQuote noBackslash _ _ _ _ _
    split
    · rename_i control
      refine ⟨.unit c.toNat, ?_, ?_⟩
      · intro s
        simp only [List.cons_append, List.nil_append, pieces?, numeral?_control c.toNat control]
        cases pieces? s <;> rfl
      · intro pieces
        have notFirst : isFirstHalf c.toNat = false := by
          simp only [isFirstHalf, Bool.and_eq_false_iff, decide_eq_false_iff_not]
          omega
        have notSecond : isSecondHalf c.toNat = false := by
          simp only [isSecondHalf, Bool.and_eq_false_iff, decide_eq_false_iff_not]
          omega
        rw [joined?_unit notFirst notSecond, Char.ofNat_toNat]
    · rename_i plain
      refine ⟨.character c, ?_, fun _ => rfl⟩
      intro s
      rw [List.cons_append, List.nil_append, pieces?]
      · simp only [plain, ↓reduceIte]
        cases pieces? s <;> rfl
      · exact noQuote
      · rintro a b c d rest rfl
        exact absurd rfl noBackslash
      · rintro d rest rfl
        exact absurd rfl noBackslash

/-- What stands in quotes is read back up to the closing quote. -/
private theorem pieces?_quoted (s rest : List Char) : ∃ pieces,
    pieces? (s.flatMap quotedCharacter ++ '"' :: rest) = some (pieces, rest) ∧
      joined? pieces = some s := by
  induction s with
  | nil => exact ⟨[], rfl, rfl⟩
  | cons c s ih =>
    obtain ⟨pieces, read, joined⟩ := ih
    obtain ⟨piece, first, joins⟩ := pieces?_quotedCharacter c
    refine ⟨piece :: pieces, ?_, ?_⟩
    · rw [List.flatMap_cons, List.append_assoc, first, read]
      rfl
    · rw [joins, joined]
      rfl

/-- A text in quotes is read back, whatever follows it. -/
theorem text?_quoted (text : Option String) : ∃ body, quoted text = '"' :: body ∧
    ∀ rest, text? (body ++ rest) = some (text, rest) := by
  cases text with
  | none => exact ⟨_, rfl, fun _ => rfl⟩
  | some s =>
    refine ⟨s.toList.flatMap quotedCharacter ++ ['"'], rfl, ?_⟩
    intro rest
    obtain ⟨pieces, read, joined⟩ := pieces?_quoted s.toList rest
    rw [List.append_assoc, List.singleton_append, text?, read]
    simp only [Option.map_some, joined, String.ofList_toList]

mutual

/-- Whether a value holds no number. -/
def numberless : Value → Bool
  | .number _ => false
  | .array items => numberlessItems items
  | .object entries => numberlessEntries entries
  | .null | .bool _ | .text _ => true

/-- Whether no item holds a number. -/
def numberlessItems : List Value → Bool
  | [] => true
  | item :: items => numberless item && numberlessItems items

/-- Whether no entry holds a number. -/
def numberlessEntries : List (Option String × Value) → Bool
  | [] => true
  | (_, value) :: entries => numberless value && numberlessEntries entries

end

variable {s t : List Char} {fuel : Nat}

@[simp]
theorem skipBlanks_lineStart (depth : Nat) (s : List Char) :
    skipBlanks (lineStart depth ++ s) = skipBlanks s := by
  have blanks (n : Nat) : skipBlanks (List.replicate n ' ' ++ s) = skipBlanks s := by
    induction n with
    | zero => rfl
    | succ n ih => exact ih
  exact blanks (2 * depth)

/-- Blanks in front of a value say nothing. -/
theorem value?_congr (same : skipBlanks s = skipBlanks t) : value? fuel s = value? fuel t := by
  cases fuel with
  | zero => rfl
  | succ fuel => rw [value?, value?, same]

theorem value?_blank : value? fuel (' ' :: s) = value? fuel s :=
  value?_congr rfl

/-- Blanks in front of entries say nothing. -/
theorem entries?_congr (same : skipBlanks s = skipBlanks t) : entries? fuel s = entries? fuel t := by
  cases fuel with
  | zero => rfl
  | succ fuel => rw [entries?, entries?, same]

/-- Blanks in front of items say nothing. -/
theorem items?_congr (same : skipBlanks s = skipBlanks t) : items? fuel s = items? fuel t := by
  cases fuel with
  | zero => rfl
  | succ fuel => rw [items?, items?, value?_congr same]

@[simp]
theorem length_lineStart (depth : Nat) : (lineStart depth).length = 2 * depth + 1 := by
  simp [lineStart]

/-- No item starts with the mark that closes an array. -/
theorem items?_close (fuel : Nat) (s : List Char) : items? fuel (']' :: s) = none := by
  cases fuel with
  | zero => rfl
  | succ fuel =>
    cases fuel with
    | zero => rfl
    | succ fuel => rfl

@[simp]
theorem skipBlanks_skipBlanks (s : List Char) : skipBlanks (skipBlanks s) = skipBlanks s := by
  unfold skipBlanks
  induction s with
  | nil => rfl
  | cons c s ih =>
    by_cases blank : isBlank c = true
    · simpa only [List.dropWhile_cons, blank, ↓reduceIte] using ih
    · simp only [List.dropWhile_cons, blank, Bool.false_eq_true, ↓reduceIte]

mutual

/-- A value without numbers is read back, whatever follows it, with fuel for all its characters. -/
theorem value?_written (v : Value) (plain : numberless v = true) (depth fuel : Nat)
    (enough : (written depth v).length < fuel) (rest : List Char) :
    value? fuel (written depth v ++ rest) = some (v, rest) := by
  cases fuel with
  | zero => exact absurd enough (Nat.not_lt_zero _)
  | succ fuel =>
    match v with
    | .null => rfl
    | .bool true => rfl
    | .bool false => rfl
    | .number numeral => cases plain
    | .text text =>
      obtain ⟨body, quotes, read⟩ := text?_quoted text
      rw [written, quotes]
      change (text? (body ++ rest)).map (fun (text, rest) => (Value.text text, rest)) = _
      rw [read]
      rfl
    | .array [] => rfl
    | .object [] => rfl
    | .array (item :: items) =>
      have all : numberlessItems (item :: items) = true := plain
      have room : (written (depth + 1) item ++ writtenItems (depth + 1) items).length + 1 < fuel := by
        simp only [written, List.length_append, List.length_cons, length_lineStart] at enough ⊢
        omega
      have read := items?_written item items all (depth + 1) depth fuel room rest
      have inner : written depth (.array (item :: items)) ++ rest =
          '[' :: (lineStart (depth + 1) ++ (written (depth + 1) item ++
            writtenItems (depth + 1) items ++ lineStart depth ++ ']' :: rest)) := by
        simp [written]
      have array (s : List Char) : value? (fuel + 1) ('[' :: s) =
          match skipBlanks s with
          | ']' :: rest => some (.array [], rest)
          | rest => (items? fuel rest).map fun (items, rest) => (.array items, rest) := rfl
      rw [items?_congr (skipBlanks_skipBlanks _).symm] at read
      rw [inner, array, skipBlanks_lineStart]
      -- Were the array closed at once, its items could not have been read.
      split
      · rename_i none
        rw [none, items?_close] at read
        cases read
      · rw [read]
        rfl
    | .object ((name, value) :: entries) =>
      have all : numberlessEntries ((name, value) :: entries) = true := plain
      have room : (quoted name ++ [':', ' '] ++ written (depth + 1) value ++
          writtenEntries (depth + 1) entries).length < fuel := by
        simp only [written, List.length_append, List.length_cons] at enough ⊢
        omega
      have read := entries?_written name value entries all (depth + 1) depth fuel room rest
      obtain ⟨body, quotes, -⟩ := text?_quoted name
      have inner : written depth (.object ((name, value) :: entries)) ++ rest =
          '\x7b' :: (lineStart (depth + 1) ++ (quoted name ++ [':', ' '] ++ written (depth + 1) value ++
            writtenEntries (depth + 1) entries ++ lineStart depth ++ '\x7d' :: rest)) := by
        simp [written]
      have opened : skipBlanks (lineStart (depth + 1) ++ (quoted name ++ [':', ' '] ++
          written (depth + 1) value ++ writtenEntries (depth + 1) entries ++ lineStart depth ++
            '\x7d' :: rest)) = quoted name ++ [':', ' '] ++ written (depth + 1) value ++
              writtenEntries (depth + 1) entries ++ lineStart depth ++ '\x7d' :: rest := by
        rw [skipBlanks_lineStart, quotes]
        rfl
      have object (s : List Char) : value? (fuel + 1) ('\x7b' :: s) =
          match skipBlanks s with
          | '\x7d' :: rest => some (.object [], rest)
          | rest => (entries? fuel rest).map fun (entries, rest) => (.object entries, rest) := rfl
      simp only [quotes, List.cons_append] at opened read
      simp only [inner, object, quotes, List.cons_append, opened]
      change (entries? fuel _).map (fun (entries, rest) => (Value.object entries, rest)) = _
      rw [read]
      rfl
termination_by fuel

/-- Items are read back. -/
theorem items?_written (item : Value) (items : List Value)
    (plain : numberlessItems (item :: items) = true) (depth outer fuel : Nat)
    (enough : (written depth item ++ writtenItems depth items).length + 1 < fuel)
    (rest : List Char) :
    items? fuel (written depth item ++ writtenItems depth items ++ lineStart outer ++ ']' :: rest) =
      some (item :: items, rest) := by
  cases fuel with
  | zero => exact absurd enough (Nat.not_lt_zero _)
  | succ fuel =>
    obtain ⟨first, later⟩ := Bool.and_eq_true_iff.mp plain
    rw [List.length_append] at enough
    have room : (written depth item).length < fuel := by omega
    have read := value?_written item first depth fuel room
      (writtenItems depth items ++ lineStart outer ++ ']' :: rest)
    rw [items?, List.append_assoc, List.append_assoc, ← List.append_assoc (writtenItems depth items),
      read]
    match items with
    | [] =>
      have close : skipBlanks (writtenItems depth [] ++ lineStart outer ++ ']' :: rest) =
          ']' :: rest := skipBlanks_lineStart outer _
      simp only [bind, Option.bind, close]
      rfl
    | next :: items =>
      have fits : (written depth next ++ writtenItems depth items).length + 1 < fuel := by
        simp only [writtenItems, List.length_append, List.length_cons] at enough ⊢
        omega
      have more := items?_written next items later depth outer fuel fits rest
      have comma : skipBlanks (writtenItems depth (next :: items) ++ lineStart outer ++ ']' :: rest) =
          ',' :: (lineStart depth ++ (written depth next ++ writtenItems depth items ++
            lineStart outer ++ ']' :: rest)) := by
        simp [writtenItems, skipBlanks, isBlank]
      rw [items?_congr (skipBlanks_lineStart depth _).symm] at more
      simp only [bind, Option.bind, comma, more]
      rfl
termination_by fuel

/-- Entries are read back. -/
theorem entries?_written (name : Option String) (value : Value)
    (entries : List (Option String × Value))
    (plain : numberlessEntries ((name, value) :: entries) = true) (depth outer fuel : Nat)
    (enough : (quoted name ++ [':', ' '] ++ written depth value ++
      writtenEntries depth entries).length < fuel) (rest : List Char) :
    entries? fuel (quoted name ++ [':', ' '] ++ written depth value ++
      writtenEntries depth entries ++ lineStart outer ++ '\x7d' :: rest) =
        some ((name, value) :: entries, rest) := by
  cases fuel with
  | zero => exact absurd enough (Nat.not_lt_zero _)
  | succ fuel =>
    obtain ⟨first, later⟩ := Bool.and_eq_true_iff.mp plain
    obtain ⟨body, quotes, readName⟩ := text?_quoted name
    simp only [List.length_append, List.length_cons] at enough
    have room : (written depth value).length < fuel := by omega
    have read := value?_written value first depth fuel room
      (writtenEntries depth entries ++ lineStart outer ++ '\x7d' :: rest)
    rw [← value?_blank] at read
    have opened : skipBlanks (quoted name ++ [':', ' '] ++ written depth value ++
        writtenEntries depth entries ++ lineStart outer ++ '\x7d' :: rest) =
          '"' :: (body ++ (':' :: ' ' :: (written depth value ++ (writtenEntries depth entries ++
            lineStart outer ++ '\x7d' :: rest)))) := by
      simp [quotes, skipBlanks, isBlank]
    have colon (s : List Char) : skipBlanks (':' :: s) = ':' :: s := rfl
    rw [entries?, opened]
    simp only [bind, Option.bind, readName, colon, read]
    match entries with
    | [] =>
      have close : skipBlanks (writtenEntries depth [] ++ lineStart outer ++ '\x7d' :: rest) =
          '\x7d' :: rest := skipBlanks_lineStart outer _
      simp only [close]
      rfl
    | (next, held) :: entries =>
      have fits : (quoted next ++ [':', ' '] ++ written depth held ++
          writtenEntries depth entries).length < fuel := by
        simp only [writtenEntries, List.length_append, List.length_cons] at enough ⊢
        omega
      have more := entries?_written next held entries later depth outer fuel fits rest
      have comma : skipBlanks (writtenEntries depth ((next, held) :: entries) ++ lineStart outer ++
          '\x7d' :: rest) = ',' :: (lineStart depth ++ (quoted next ++ [':', ' '] ++
            written depth held ++ writtenEntries depth entries ++ lineStart outer ++
              '\x7d' :: rest)) := by
        simp [writtenEntries, skipBlanks, isBlank]
      rw [entries?_congr (skipBlanks_lineStart depth _).symm] at more
      simp only [comma, more]
      rfl
termination_by fuel

end

/-- A value without numbers that is printed is read back. -/
theorem Value.read?_print {v : Value} (plain : numberless v = true) : read? v.print = some v := by
  have back := value?_written v plain 0 ((written 0 v).length + 1) (Nat.lt_succ_self _) []
  rw [List.append_nil] at back
  unfold read? print
  simp only [String.toList_ofList, back]
  rfl

end Upkeep.Json
