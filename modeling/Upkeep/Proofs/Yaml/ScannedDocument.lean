import Upkeep.Proofs.Yaml.ScannedLayout

/-! What is written for a mapping, below a line of comment, is scanned as the tokens of the mapping. -/
namespace Upkeep.Yaml

namespace Scanner

section Ends

variable {tokens : List Token} {allowed : Bool} {indents : List Nat} {p : Spot} {rest comment : List Char}

/-- A line of comment. -/
def commentLine (comment : List Char) : List Char :=
  '#' :: (comment ++ ['\n'])

theorem skipToToken_comment {fuel : Nat} (onLine : Spot.OnLine comment) :
    skipToToken (fuel + 1) (block (p.cursor (commentLine comment ++ rest)) tokens none allowed indents) =
      skipToToken fuel (block ((p.after (commentLine comment)).cursor rest) tokens none true indents) := by
  have form : commentLine comment ++ rest = '#' :: (comment ++ '\n' :: rest) := by simp [commentLine]
  have skipped (tabs : Bool) : (p.cursor ('#' :: (comment ++ '\n' :: rest))).skipWhile
      (fun x => x == ' ' || tabs && x == '\t') = p.cursor ('#' :: (comment ++ '\n' :: rest)) :=
    Spot.skipWhile_cursor Spot.onLine_nil (fun _ inside => nomatch inside) (by
      rintro _ ⟨⟩
      cases tabs <;> rfl)
  have noMark : (p.cursor ('#' :: (comment ++ '\n' :: rest))).next '\ufeff' = false := rfl
  have passed : (p.cursor ('#' :: (comment ++ '\n' :: rest))).skipComment =
      (p.after ('#' :: comment)).cursor ('\n' :: rest) := by
    have isComment : (p.cursor ('#' :: (comment ++ '\n' :: rest))).next '#' = true := rfl
    rw [Cursor.skipComment, if_pos isComment]
    refine Spot.skipWhile_cursor (s := '#' :: comment) (.cons rfl onLine) (fun c inside => ?_) ?_
    · rw [Spot.OnLine.cons (c := '#') rfl onLine c inside]
      rfl
    · rintro _ ⟨⟩
      rfl
  have lineBreak : isBreak '\n' = true := rfl
  have outside : inFlow (block (p.cursor ('#' :: (comment ++ '\n' :: rest))) tokens none allowed indents) = false := rfl
  rw [form]
  simp only [skipToToken, outside]
  simp only [block, noMark, Bool.and_false, Bool.false_eq_true, ↓reduceIte, skipped, passed, Spot.peek_cursor_cons,
    lineBreak, Spot.takeBreak_cursor (c := '\n') (.inl rfl), Bool.not_false, Bool.or_true, ← Spot.after_append]
  rfl

theorem leads_comment (onLine : Spot.OnLine comment) (begins : Begins rest) :
    Leads (block (p.cursor (commentLine comment ++ rest)) tokens none allowed indents)
      (block ((p.after (commentLine comment)).cursor rest) tokens none true indents) := by
  refine .of_settle ?_ (by simp [block])
  have ahead : (block (p.cursor (commentLine comment ++ rest)) tokens none allowed indents).cursor.rest.length =
      (comment ++ '\n' :: rest).length + 1 := by
    simp [block, commentLine]
  rw [settle_here begins, settle, ahead, skipToToken_comment onLine,
    skipToToken_spaces (n := 0) (p := p.after (commentLine comment)) begins _ rfl]
  change Except.map _ (dropStale (block _ tokens none true indents)) = _
  rw [dropStale_block]
  rfl

/-- At the end of the text every block is closed. -/
theorem run_end {fuel : Nat} (within : Within indents p.column) :
    run (fuel + 1) (block (p.cursor []) tokens none allowed indents) =
      .ok (tokens ++ List.replicate indents.length Token.blockEnd).toArray := by
  have all (columns : List Nat) : columns.takeWhile (fun _ => true) = columns ∧ columns.dropWhile (fun _ => true) = [] := by
    induction columns with
    | nil => exact ⟨rfl, rfl⟩
    | cons n columns ih => simp [ih]
  rw [run_succ, settle_within begins_nil (outdated_near (near_none _)) within, ok_bind, advance]
  simp [block, endBlocks, closeTo, inFlow, dropPlace, all]
  simp [Except.map]

end Ends

end Scanner

namespace Token

open Scanner Printer

variable {comment : List Char}

/-- A scan that leads to the end of the text. -/
theorem ofText_of_leads {text : List Char} {tokens : List Token} {allowed : Bool} {indents : List Nat} {p : Spot}
    (allAllowed : Allowed text) (leads : Leads (.start text) (block (p.cursor []) tokens none allowed indents))
    (within : Within indents p.column) :
    Token.ofText (String.ofList text) = .ok (tokens ++ List.replicate indents.length .blockEnd) := by
  obtain ⟨fuel, enough, same⟩ := leads (text.length + 1) (Nat.lt_succ_self _)
  obtain ⟨fuel, rfl⟩ := Nat.exists_eq_add_of_le' (show 1 ≤ fuel from Nat.pos_of_ne_zero (Nat.ne_of_gt enough))
  rw [Token.ofText, String.toList_ofList, if_pos (List.all_eq_true.mpr allAllowed), same, run_end within]
  rfl

theorem allowed_commentLine (allowed : Allowed comment) : Allowed (commentLine comment) :=
  .cons rfl (allowed.append (.cons rfl allowed_nil))

/-- The tokens of a mapping below a line of comment. -/
theorem ofText_entries {entries : List (Value × Value)} (nonempty : entries ≠ [])
    (tags : Value.entriesReadBack entries = true) (onLine : Spot.OnLine comment) (allowed : Allowed comment) :
    Token.ofText (String.ofList (commentLine comment ++ entriesText 0 entries)) =
      .ok (.blockMapping :: (entriesTokens entries ++ [.blockEnd])) := by
  have column : (Spot.zero.after (commentLine comment)).column = 0 := by
    have ends : EndsLine (commentLine comment) := .cons '#' ⟨comment, '\n', rfl, rfl⟩
    simpa using ends.column_after Spot.zero 0
  have begins := begins_entriesText (k := 0) nonempty []
  rw [List.append_nil] at begins
  have start : Leads (.start (commentLine comment ++ entriesText 0 entries))
      (block ((Spot.zero.after (commentLine comment)).cursor (entriesText 0 entries)) [] none true []) :=
    leads_comment (p := Spot.zero) onLine begins
  have opens : Opens .blockMapping 0 [] [.blockMapping] [0] := .deeper fun _ head => nomatch head
  have written : Leads (block (_ : Cursor) [] none true []) _ :=
    leads_entriesText 0 entries nonempty tags (n := 0) opens begins_nil (Nat.le_refl 0) column
  simp only [List.replicate_zero, List.append_nil] at written
  have scanned := ofText_of_leads ((allowed_commentLine allowed).append (allowed_entriesText 0 entries)) (start.trans written)
    (by
      rintro _ ⟨⟩
      exact Nat.zero_le _)
  simpa using scanned

/-- The tokens of a mapping without entries below a line of comment. -/
theorem ofText_empty (onLine : Spot.OnLine comment) (allowed : Allowed comment) :
    Token.ofText (String.ofList (commentLine comment ++ ['\x7b', '\x7d', '\n'])) = .ok [.openMapping, .closeMapping] := by
  have start : Leads (.start (commentLine comment ++ ['\x7b', '\x7d', '\n']))
      (block ((Spot.zero.after (commentLine comment)).cursor ['\x7b', '\x7d', '\n']) [] none true []) :=
    leads_comment (p := Spot.zero) onLine (begins_cons (by decide))
  generalize Spot.zero.after (commentLine comment) = p at start
  have within : Within [] p.column := fun _ head => nomatch head
  have written : Leads (block (p.cursor ['\x7b', '\x7d', '\n']) [] none true [])
      (block ((p.after ['\x7b', '\x7d']).cursor ['\n']) [.openMapping, .closeMapping]
        (marked none true [] [] (p.cursor ['\x7b', '\x7d', '\n'])) false []) := by
    refine leads_brackets true (outdated_near (near_none _)) (fun _ => loose_none _) within (outdated_near ?_)
    rintro _ ⟨⟩
    exact ⟨rfl, Nat.add_le_add_left (by decide) p.index⟩
  have line : Leads (block ((p.after ['\x7b', '\x7d']).cursor ['\n']) [.openMapping, .closeMapping]
      (marked none true [] [] (p.cursor ['\x7b', '\x7d', '\n'])) false [])
      (block (((p.after ['\x7b', '\x7d']).after ['\n']).cursor []) [.openMapping, .closeMapping] none true []) := by
    refine leads_line (n := 0) begins_nil ?_
    rintro _ ⟨⟩
    exact ⟨rfl, Spot.line_le_after p ['\x7b', '\x7d']⟩
  exact ofText_of_leads ((allowed_commentLine allowed).append (List.all_eq_true.mp rfl))
    ((start.trans written).trans line) fun _ head => nomatch head

end Token

end Upkeep.Yaml
