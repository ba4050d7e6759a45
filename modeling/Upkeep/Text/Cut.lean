/-! Trimming texts, replacing characters in them, and cutting them in two. -/
namespace Upkeep.Text

/-! ## Characters

A character is blank when it has the Unicode property White_Space; all trimming in this library
uses that class, never the ASCII one. -/

/-- Whether a character has the Unicode property White_Space. -/
def isBlank (c : Char) : Bool :=
  let n := c.toNat
  (9 ≤ n && n ≤ 13) || n == 0x20 || n == 0x85 || n == 0xA0 || n == 0x1680 ||
    (0x2000 ≤ n && n ≤ 0x200A) || n == 0x2028 || n == 0x2029 || n == 0x202F ||
    n == 0x205F || n == 0x3000

/-- Whether a character is a control character (Unicode category Cc). -/
def isControl (c : Char) : Bool :=
  c.toNat < 0x20 || (0x7F ≤ c.toNat && c.toNat ≤ 0x9F)

/-- The characters from the first one that is not blank. -/
def trimStart (s : List Char) : List Char :=
  s.dropWhile isBlank

/-- The characters up to the last one that is not blank. -/
def trimEnd (s : List Char) : List Char :=
  (s.reverse.dropWhile isBlank).reverse

/-- A text without the blank characters at both of its ends. -/
def trim (s : String) : String :=
  String.ofList (trimEnd (trimStart s.toList))

/-- A text with other characters in place of each occurrence of one. -/
def replaced (c : Char) (other s : List Char) : List Char :=
  s.flatMap fun d => if d = c then other else [d]

/-! ## Separators

A text is cut in two around a separator: at its first occurrence for a separator of any length, at
its last one for a single character. -/

/-- What follows `mark` when the text starts with it. -/
def after? : List Char → List Char → Option (List Char)
  | [], s => some s
  | _ :: _, [] => none
  | m :: mark, c :: s => if m = c then after? mark s else none

theorem after?_eq_some_iff {mark s rest : List Char} :
    after? mark s = some rest ↔ s = mark ++ rest := by
  induction mark generalizing s with
  | nil => simp [after?]
  | cons m mark ih =>
    cases s with
    | nil => simp [after?]
    | cons c s =>
      by_cases h : m = c
      · simp [after?, h, ih]
      · simp [after?, h, Ne.symm h]

/-- What stands before and after the first occurrence of `mark`, or nothing when `mark` does
not occur. -/
def cutFirst (mark : List Char) : List Char → Option (List Char × List Char)
  | [] => if mark = [] then some ([], []) else none
  | c :: rest =>
    match after? mark (c :: rest) with
    | some after => some ([], after)
    | none => (cutFirst mark rest).map fun (before, after) => (c :: before, after)

/-- What stands before and after the last occurrence of `mark`. -/
def cutLast (mark : Char) : List Char → Option (List Char × List Char)
  | [] => none
  | c :: rest =>
    match cutLast mark rest with
    | some (before, after) => some (c :: before, after)
    | none => if c = mark then some ([], rest) else none

/-- The separator and the two sides make up the text again. -/
theorem cutFirst_join {mark s before after : List Char}
    (h : cutFirst mark s = some (before, after)) : s = before ++ mark ++ after := by
  induction s generalizing before with
  | nil =>
    by_cases hm : mark = []
    · simp_all [cutFirst]
    · simp [cutFirst, hm] at h
  | cons c rest ih =>
    unfold cutFirst at h
    split at h
    · rename_i tail found
      obtain ⟨rfl, rfl⟩ : [] = before ∧ tail = after := by simpa using h
      simpa using after?_eq_some_iff.1 found
    · obtain ⟨⟨b, a⟩, hb, he⟩ := Option.map_eq_some_iff.1 h
      obtain ⟨rfl, rfl⟩ : c :: b = before ∧ a = after := by simpa using he
      simp [ih hb]

theorem cutFirst_eq_none_iff {mark s : List Char} : cutFirst mark s = none ↔ ¬ mark <:+: s := by
  induction s with
  | nil => by_cases empty : mark = [] <;> simp [cutFirst, empty]
  | cons c rest ih =>
    have here : after? mark (c :: rest) = none ↔ ¬ mark <+: c :: rest := by
      rw [Option.eq_none_iff_forall_ne_some]
      constructor
      · rintro none ⟨after, joined⟩
        exact none after (after?_eq_some_iff.mpr joined.symm)
      · intro absent after found
        exact absent ⟨after, (after?_eq_some_iff.mp found).symm⟩
    rw [List.infix_cons_iff, not_or, ← here, ← ih]
    cases found : after? mark (c :: rest) with
    | some after => simp [cutFirst, found]
    | none => simp only [cutFirst, found, Option.map_eq_none_iff, true_and]

/-- A text that holds a separator is cut at its first occurrence. -/
theorem exists_cutFirst {mark s : List Char} (inside : mark <:+: s) :
    ∃ before after, cutFirst mark s = some (before, after) := by
  cases cut : cutFirst mark s with
  | none => exact absurd inside (cutFirst_eq_none_iff.mp cut)
  | some parts => exact ⟨parts.1, parts.2, rfl⟩

/-- Nothing before the cut holds the separator. -/
theorem not_infix_before_cutFirst {mark s before after : List Char} (some_mark : mark ≠ [])
    (h : cutFirst mark s = some (before, after)) : ¬ mark <:+: before := by
  induction s generalizing before with
  | nil => simp [cutFirst, some_mark] at h
  | cons c rest ih =>
    cases found : after? mark (c :: rest) with
    | some tail =>
      obtain ⟨rfl, rfl⟩ : [] = before ∧ tail = after := by simpa [cutFirst, found] using h
      simpa using some_mark
    | none =>
      simp only [cutFirst, found, Option.map_eq_some_iff, Prod.mk.injEq, Prod.exists] at h
      obtain ⟨b, a, cut, rfl, rfl⟩ := h
      rw [List.infix_cons_iff, not_or]
      refine ⟨fun ⟨t, joined⟩ => ?_, ih cut⟩
      have here : after? mark (c :: rest) = some (t ++ mark ++ a) := by
        rw [after?_eq_some_iff, cutFirst_join cut, ← List.append_assoc, ← List.append_assoc, joined]
        simp
      cases found.symm.trans here

/-- A text is cut at an occurrence before which there is none, not even one that reaches into it. -/
theorem cutFirst_append {mark before after : List Char} (some_mark : mark ≠ [])
    (first : ¬ mark <:+: before ++ mark.dropLast) :
    cutFirst mark (before ++ mark ++ after) = some (before, after) := by
  induction before with
  | nil =>
    obtain ⟨m, tail, rfl⟩ := List.exists_cons_of_ne_nil some_mark
    have found : after? (m :: tail) (m :: tail ++ after) = some after := after?_eq_some_iff.mpr rfl
    rw [List.cons_append] at found
    simp only [List.nil_append, List.cons_append, cutFirst, found]
  | cons c before ih =>
    rw [List.cons_append, List.infix_cons_iff, not_or] at first
    have skipped : after? mark (c :: (before ++ mark ++ after)) = none := by
      rw [Option.eq_none_iff_forall_ne_some]
      intro rest found
      apply first.1
      have whole : mark <+: (c :: (before ++ mark.dropLast)) ++ (mark.getLast some_mark :: after) := by
        refine ⟨rest, (after?_eq_some_iff.mp found).symm.trans ?_⟩
        conv => lhs; rw [← List.dropLast_concat_getLast some_mark]
        simp
      refine List.prefix_of_prefix_length_le whole (List.prefix_append _ _) ?_
      simp only [List.length_cons, List.length_append, List.length_dropLast]
      omega
    rw [List.cons_append, List.cons_append, cutFirst, skipped, ih first.2]
    rfl

/-- A text is cut at the first occurrence of a character. -/
theorem cutFirst_singleton {c : Char} {before after : List Char} (absent : c ∉ before) :
    cutFirst [c] (before ++ c :: after) = some (before, after) := by
  have first : ¬ [c] <:+: before ++ [c].dropLast := by
    rw [List.dropLast_singleton, List.append_nil]
    exact fun inside => absent (inside.subset List.mem_cons_self)
  rw [← cutFirst_append (List.cons_ne_nil c []) first, List.append_assoc]
  rfl

theorem cutLast_join {mark : Char} {s before after : List Char}
    (h : cutLast mark s = some (before, after)) : s = before ++ mark :: after := by
  induction s generalizing before with
  | nil => simp [cutLast] at h
  | cons c rest ih =>
    unfold cutLast at h
    split at h
    · rename_i b a found
      obtain ⟨rfl, rfl⟩ : c :: b = before ∧ a = after := by simpa using h
      simp [ih found]
    · split at h
      · rename_i same
        obtain ⟨rfl, rfl⟩ : [] = before ∧ rest = after := by simpa using h
        simp [same]
      · simp at h

theorem cutLast_eq_none_iff {mark : Char} {s : List Char} : cutLast mark s = none ↔ mark ∉ s := by
  induction s with
  | nil => simp [cutLast]
  | cons c rest ih =>
    unfold cutLast
    split
    · rename_i found
      have inside : mark ∈ rest := Classical.byContradiction fun absent => by
        rw [ih.mpr absent] at found
        cases found
      simp [inside]
    · rename_i missing
      have absent := ih.mp missing
      by_cases same : c = mark
      · simp [same]
      · simp [same, absent, Ne.symm same]

/-- A text is cut at the last occurrence of a character. -/
theorem cutLast_append {mark : Char} {before after : List Char} (absent : mark ∉ after) :
    cutLast mark (before ++ mark :: after) = some (before, after) := by
  induction before with
  | nil => simp [cutLast, cutLast_eq_none_iff.mpr absent]
  | cons c before ih => simp [cutLast, ih]

theorem not_mem_after_cutLast {mark : Char} {s before after : List Char}
    (h : cutLast mark s = some (before, after)) : mark ∉ after := by
  induction s generalizing before with
  | nil => simp [cutLast] at h
  | cons c rest ih =>
    unfold cutLast at h
    split at h
    · rename_i b a found
      obtain ⟨rfl, rfl⟩ : c :: b = before ∧ a = after := by simpa using h
      exact ih found
    · rename_i missing
      split at h
      · obtain ⟨rfl, rfl⟩ : [] = before ∧ rest = after := by simpa using h
        exact cutLast_eq_none_iff.mp missing
      · simp at h

end Upkeep.Text
