import Upkeep.Proofs.Yaml.PlainScalars
import Upkeep.Yaml.Token.Scanner

/-! How a scan goes on outside flow collections. Before each token it settles: it passes blanks, comments
and line breaks, gives up key places that lie behind and closes the blocks that stand further in. A
state leads to another if every run from the first goes on as a run from the second. -/
namespace Upkeep.Yaml

/-- A token may begin: no blank, no line break, no comment and no byte order mark comes next. -/
def Begins (rest : List Char) : Prop :=
  ∀ c, rest.head? = some c → isSpace c = false ∧ isBreak c = false ∧ c ≠ '#' ∧ c ≠ '\ufeff'

theorem Begins.stops {rest : List Char} (begins : Begins rest) : Stops rest :=
  fun c head => ⟨(begins c head).1, (begins c head).2.1⟩

theorem begins_nil : Begins [] :=
  fun _ head => nomatch head

theorem begins_cons {c : Char} {rest : List Char}
    (begins : isSpace c = false ∧ isBreak c = false ∧ c ≠ '#' ∧ c ≠ '\ufeff') : Begins (c :: rest) := by
  rintro _ ⟨⟩
  exact begins

namespace Scanner

/-- A state outside flow collections. -/
def block (cursor : Cursor) (tokens : List Token) (place : Option KeyPlace) (allowed : Bool) (indents : List Nat) :
    Scanner :=
  ⟨cursor, tokens.toArray, [place], allowed, indents⟩

/-- What a scan does before it looks at a token. -/
def settle (s : Scanner) : Except Fault Scanner :=
  (skipToToken (s.cursor.rest.length + 1) s).dropStale.map fun s => s.closeTo (some s.cursor.column)

/-- What a scan does with the token ahead. -/
def advance (fuel : Nat) (s : Scanner) : Except Fault (Array Token) :=
  match s.cursor.peek with
  | some x => s.scanToken x >>= run fuel
  | none => s.endBlocks.map (·.tokens)

theorem run_succ (fuel : Nat) (s : Scanner) : run (fuel + 1) s = s.settle >>= advance fuel := by
  rw [run, settle]
  cases (skipToToken (s.cursor.rest.length + 1) s).dropStale with
  | error fault => rfl
  | ok t =>
    change _ = advance fuel (t.closeTo (some t.cursor.column))
    simp only [ok_bind, advance]
    cases (t.closeTo (some t.cursor.column)).cursor.peek with
    | some x => rfl
    | none => cases (t.closeTo (some t.cursor.column)).endBlocks <;> rfl

/-- Every run from the first state goes on as a run from the second. -/
def Leads (s t : Scanner) : Prop :=
  ∀ fuel, s.cursor.rest.length < fuel → ∃ fuel', t.cursor.rest.length < fuel' ∧ run fuel s = run fuel' t

theorem Leads.trans {s t u : Scanner} (first : Leads s t) (second : Leads t u) : Leads s u := by
  intro fuel enough
  obtain ⟨fuel', enough', same⟩ := first fuel enough
  obtain ⟨fuel'', enough'', same'⟩ := second fuel' enough'
  exact ⟨fuel'', enough'', same.trans same'⟩

/-- States that settle alike lead to each other. -/
theorem Leads.of_settle {s t : Scanner} (same : s.settle = t.settle)
    (ahead : t.cursor.rest.length ≤ s.cursor.rest.length) : Leads s t := by
  intro fuel enough
  obtain ⟨fuel, rfl⟩ := Nat.exists_eq_add_of_le' (show 1 ≤ fuel by omega)
  exact ⟨fuel + 1, by omega, by rw [run_succ, run_succ, same]⟩

/-- A token takes a state further. -/
theorem Leads.of_token {s t u : Scanner} {x : Char} (settled : s.settle = .ok t) (ahead : t.cursor.peek = some x)
    (scanned : t.scanToken x = .ok u) (forward : u.cursor.rest.length < s.cursor.rest.length) : Leads s u := by
  intro fuel enough
  obtain ⟨fuel, rfl⟩ := Nat.exists_eq_add_of_le' (show 1 ≤ fuel by omega)
  refine ⟨fuel, by omega, ?_⟩
  rw [run_succ, settled, ok_bind, advance, ahead]
  simp only [scanned, ok_bind]

/-! ### Passing over blanks and lines -/

section Skip

variable {fuel n : Nat} {tokens : List Token} {place : Option KeyPlace} {allowed : Bool} {indents : List Nat}
  {p : Spot} {rest : List Char}

theorem skipToToken_spaces (begins : Begins rest) (s : Scanner)
    (ahead : s.cursor = p.cursor (List.replicate n ' ' ++ rest)) :
    skipToToken (fuel + 1) s = s.moveTo ((p.after (List.replicate n ' ')).cursor rest) := by
  have noMark : (p.cursor (List.replicate n ' ' ++ rest)).next '\ufeff' = false := by
    cases n with
    | zero =>
      cases rest with
      | nil => rfl
      | cons c rest => simpa using (begins c rfl).2.2.2
    | succ n => rfl
  have skipped (tabs : Bool) : (p.cursor (List.replicate n ' ' ++ rest)).skipWhile
      (fun x => x == ' ' || tabs && x == '\t') = (p.after (List.replicate n ' ')).cursor rest := by
    refine Spot.skipWhile_cursor (Spot.onLine_replicate n) (fun c inside => ?_) fun c head => ?_
    · rw [List.eq_of_mem_replicate inside]
      rfl
    · have noBlank := (begins c head).1
      simp only [isSpace, Bool.or_eq_false_iff] at noBlank
      simp [noBlank]
  have noComment : ((p.after (List.replicate n ' ')).cursor rest).skipComment =
      (p.after (List.replicate n ' ')).cursor rest := by
    have noComment : ((p.after (List.replicate n ' ')).cursor rest).next '#' = false := by
      cases rest with
      | nil => rfl
      | cons c rest => simpa using (begins c rfl).2.2.1
    rw [Cursor.skipComment, noComment]
    rfl
  simp only [skipToToken, ahead, noMark, Bool.and_false, Bool.false_eq_true, ↓reduceIte, skipped, noComment]
  cases rest with
  | nil => rfl
  | cons c rest => simp [(begins c rfl).2.1]

theorem skipToToken_line :
    skipToToken (fuel + 1) (block (p.cursor ('\n' :: rest)) tokens place allowed indents) =
      skipToToken fuel (block ((p.after ['\n']).cursor rest) tokens place true indents) := by
  have skipped (tabs : Bool) : (p.cursor ('\n' :: rest)).skipWhile (fun x => x == ' ' || tabs && x == '\t') =
      p.cursor ('\n' :: rest) :=
    Spot.skipWhile_cursor Spot.onLine_nil (fun _ inside => nomatch inside) (by
      rintro _ ⟨⟩
      cases tabs <;> rfl)
  have noMark : (p.cursor ('\n' :: rest)).next '\ufeff' = false := rfl
  have noComment : (p.cursor ('\n' :: rest)).skipComment = p.cursor ('\n' :: rest) := rfl
  have lineBreak : isBreak '\n' = true := rfl
  have outside : inFlow (block (p.cursor ('\n' :: rest)) tokens place allowed indents) = false := rfl
  simp only [skipToToken, outside]
  simp only [block, noMark, Bool.and_false, Bool.false_eq_true, ↓reduceIte, skipped, noComment,
    Spot.peek_cursor_cons, lineBreak, Spot.takeBreak_cursor (c := '\n') (.inl rfl), Bool.not_false, Bool.or_true]

end Skip

/-! ### Key places -/

section Places

variable {c : Cursor} {tokens : List Token} {place : Option KeyPlace} {allowed : Bool} {indents : List Nat}

/-- A place is still near: on this line, and not too far back. -/
def Near (place : Option KeyPlace) (c : Cursor) : Prop :=
  ∀ k, place = some k → k.place.line = c.line ∧ c.index ≤ k.place.index + 1024

/-- A place may be given up. -/
def Loose (place : Option KeyPlace) (c : Cursor) : Prop :=
  ∀ k, place = some k → k.required = false ∧ k.place.line ≤ c.line

theorem near_none (c : Cursor) : Near none c :=
  fun _ isSome => nomatch isSome

theorem loose_none (c : Cursor) : Loose none c :=
  fun _ isSome => nomatch isSome

/-- What becomes of a key place. -/
def outdated (c : Cursor) : Option KeyPlace → Except Fault (Option KeyPlace)
  | none => .ok none
  | some k =>
    if k.place.line < c.line ∨ k.place.index + 1024 < c.index then
      if k.required then .error .missingColon else .ok none
    else .ok (some k)

theorem dropStale_eq (s : Scanner) :
    s.dropStale = (s.places.mapM (outdated s.cursor)).map fun places => { s with places } := by
  have same : outdated s.cursor = fun
      | none => .ok none
      | some k =>
        if k.place.line < s.cursor.line || k.place.index + 1024 < s.cursor.index then
          if k.required then .error .missingColon else .ok none
        else .ok (some k) := by
    funext place
    cases place <;> simp [outdated]
  rw [same]
  rfl

theorem dropStale_block :
    dropStale (block c tokens place allowed indents) =
      (outdated c place).map fun place => block c tokens place allowed indents := by
  rw [dropStale_eq]
  simp only [block, List.mapM_cons, List.mapM_nil]
  cases outdated c place <;> rfl

theorem outdated_near (near : Near place c) : outdated c place = .ok place := by
  cases place with
  | none => rfl
  | some k =>
    obtain ⟨line, index⟩ := near k rfl
    rw [outdated, if_neg (by omega)]

theorem outdated_behind (loose : Loose place c) (behind : ∀ k, place = some k → k.place.line < c.line) :
    outdated c place = .ok none := by
  cases place with
  | none => rfl
  | some k =>
    rw [outdated, if_pos (.inl (behind k rfl)), (loose k rfl).1]
    rfl

theorem outdated_loose (loose : Loose place c) : ∃ place', Loose place' c ∧ outdated c place = .ok place' := by
  cases place with
  | none => exact ⟨none, loose, rfl⟩
  | some k =>
    rw [outdated, (loose k rfl).1]
    split
    · exact ⟨none, loose_none c, rfl⟩
    · exact ⟨some k, loose, rfl⟩

theorem dropPlace_loose (loose : Loose place c) :
    dropPlace (block c tokens place allowed indents) = .ok (block c tokens none allowed indents) := by
  cases place with
  | none => rfl
  | some k => simp [dropPlace, block, (loose k rfl).1]

end Places

/-! ### Closing blocks -/

section Close

variable {c : Cursor} {tokens : List Token} {place : Option KeyPlace} {allowed : Bool} {indents : List Nat}

theorem closeTo_block (column : Nat) :
    closeTo (some column) (block c tokens place allowed indents) =
      block c (tokens ++ List.replicate (indents.takeWhile (decide <| column < ·)).length .blockEnd) place allowed
        (indents.dropWhile (decide <| column < ·)) := by
  simp [closeTo, block, inFlow]

/-- No block stands further in than a column. -/
def Within (indents : List Nat) (column : Nat) : Prop :=
  ∀ n, indents.head? = some n → n ≤ column

theorem closeTo_within {column : Nat} (within : Within indents column) :
    closeTo (some column) (block c tokens place allowed indents) = block c tokens place allowed indents := by
  rw [closeTo_block]
  cases indents with
  | nil => simp
  | cons n indents =>
    have notDeeper : ¬ column < n := Nat.not_lt.mpr (within n rfl)
    simp [notDeeper]

end Close

/-! ### Settling -/

section Settle

variable {n : Nat} {tokens : List Token} {place : Option KeyPlace} {allowed : Bool} {indents : List Nat}
  {p : Spot} {rest : List Char}

theorem settle_spaces (begins : Begins rest) :
    settle (block (p.cursor (List.replicate n ' ' ++ rest)) tokens place allowed indents) =
      (outdated ((p.after (List.replicate n ' ')).cursor rest) place).map fun place =>
        (block ((p.after (List.replicate n ' ')).cursor rest) tokens place allowed indents).closeTo
          (some (p.after (List.replicate n ' ')).column) := by
  rw [settle, skipToToken_spaces begins _ rfl]
  change Except.map _ (dropStale (block _ tokens place allowed indents)) = _
  rw [dropStale_block]
  cases outdated ((p.after (List.replicate n ' ')).cursor rest) place <;> rfl

theorem settle_line (begins : Begins rest) :
    settle (block (p.cursor ('\n' :: (List.replicate n ' ' ++ rest))) tokens place allowed indents) =
      (outdated ((p.after ('\n' :: List.replicate n ' ')).cursor rest) place).map fun place =>
        (block ((p.after ('\n' :: List.replicate n ' ')).cursor rest) tokens place true indents).closeTo
          (some (p.after ('\n' :: List.replicate n ' ')).column) := by
  have ahead : (block (p.cursor ('\n' :: (List.replicate n ' ' ++ rest))) tokens place allowed indents).cursor.rest.length =
      (List.replicate n ' ' ++ rest).length + 1 := rfl
  rw [settle, ahead, skipToToken_line, skipToToken_spaces begins _ rfl, Spot.after_cons p '\n' (List.replicate n ' ')]
  change Except.map _ (dropStale (block _ tokens place true indents)) = _
  rw [dropStale_block]
  cases outdated (((p.after ['\n']).after (List.replicate n ' ')).cursor rest) place <;> rfl

theorem settle_here (begins : Begins rest) :
    settle (block (p.cursor rest) tokens place allowed indents) =
      (outdated (p.cursor rest) place).map fun place =>
        (block (p.cursor rest) tokens place allowed indents).closeTo (some p.column) :=
  settle_spaces (n := 0) begins

/-- A state before a token, with no block open further in. -/
theorem settle_within {place' : Option KeyPlace} (begins : Begins rest)
    (stays : outdated (p.cursor rest) place = .ok place') (within : Within indents p.column) :
    settle (block (p.cursor rest) tokens place allowed indents) =
      .ok (block (p.cursor rest) tokens place' allowed indents) := by
  rw [settle_here begins, stays]
  exact congrArg Except.ok (closeTo_within within)

end Settle

/-! ### Between tokens -/

section Between

variable {n : Nat} {tokens : List Token} {place : Option KeyPlace} {allowed : Bool} {indents : List Nat}
  {p : Spot} {rest : List Char}

theorem leads_spaces (begins : Begins rest) :
    Leads (block (p.cursor (List.replicate n ' ' ++ rest)) tokens place allowed indents)
      (block ((p.after (List.replicate n ' ')).cursor rest) tokens place allowed indents) := by
  refine .of_settle ?_ (by simp [block])
  rw [settle_spaces begins, settle_here begins]

/-- A new line, where places on earlier lines are given up. -/
theorem leads_behind (begins : Begins rest) (loose : Loose place (p.cursor rest))
    (behind : ∀ k, place = some k → k.place.line < p.line) :
    Leads (block (p.cursor rest) tokens place allowed indents) (block (p.cursor rest) tokens none allowed indents) := by
  refine .of_settle ?_ (Nat.le_refl _)
  rw [settle_here begins, settle_here begins, outdated_behind loose behind, outdated_near (near_none _)]

theorem leads_line (begins : Begins rest) (loose : Loose place (p.cursor ('\n' :: (List.replicate n ' ' ++ rest)))) :
    Leads (block (p.cursor ('\n' :: (List.replicate n ' ' ++ rest))) tokens place allowed indents)
      (block ((p.after ('\n' :: List.replicate n ' ')).cursor rest) tokens none true indents) := by
  have line : (p.after ('\n' :: List.replicate n ' ')).line = p.line + 1 := by
    rw [Spot.after_cons, Spot.line_after (Spot.onLine_replicate n), (Spot.after_break rfl).1]
  have behind (k : KeyPlace) (isPlace : place = some k) :
      k.place.line < (p.after ('\n' :: List.replicate n ' ')).line := by
    have before : k.place.line ≤ p.line := (loose k isPlace).2
    omega
  refine .of_settle ?_ (by simp [block]; omega)
  rw [settle_line begins, settle_here begins, outdated_near (near_none _), outdated_behind _ behind]
  exact fun k isPlace => ⟨(loose k isPlace).1, Nat.le_of_lt (behind k isPlace)⟩

/-- A block that stands further in than the next token is closed. -/
theorem leads_close {column : Nat} (begins : Begins rest) (left : p.column < column) :
    Leads (block (p.cursor rest) tokens none allowed (column :: indents))
      (block (p.cursor rest) (tokens ++ [.blockEnd]) none allowed indents) := by
  refine .of_settle ?_ (Nat.le_refl _)
  rw [settle_here begins, settle_here begins, outdated_near (near_none _)]
  have further : decide (p.column < column) = true := decide_eq_true left
  simp only [Except.map, closeTo_block, List.takeWhile_cons, List.dropWhile_cons, further, ↓reduceIte]
  simp [List.replicate_succ]

end Between

/-! ### Indicators -/

/-- What an indicator opens: nothing where a block stands in its column already. -/
inductive Opens (token : Token) (column : Nat) : List Nat → List Token → List Nat → Prop
  | already (outer : List Nat) : Opens token column (column :: outer) [] (column :: outer)
  | deeper {indents : List Nat} : (∀ n, indents.head? = some n → n < column) →
    Opens token column indents [token] (column :: indents)

section Indicators

variable {tokens before behind opened : List Token} {token : Token} {place : Option KeyPlace} {allowed : Bool}
  {indents indents' : List Nat} {column : Nat} {p : Spot} {c : Char} {rest : List Char}

theorem Opens.within (opens : Opens token column indents opened indents') : Within indents column := by
  cases opens with
  | already outer =>
    rintro _ ⟨⟩
    exact Nat.le_refl _
  | deeper deeper => exact fun n head => Nat.le_of_lt (deeper n head)

theorem insertIdx_length {α : Type} (before behind : List α) (a : α) :
    (before ++ behind).insertIdx before.length a = before ++ a :: behind := by
  induction before with
  | nil => rfl
  | cons b before ih => simp [ih]

theorem openAt_block (opens : Opens token column indents opened indents') (c : Cursor) :
    openAt (block c (before ++ behind) place allowed indents) column before.length token =
      block c (before ++ opened ++ behind) place allowed indents' := by
  have outside : inFlow (block c (before ++ behind) place allowed indents) = false := rfl
  cases opens with
  | already outer =>
    have notDeeper : isDeeper (block c (before ++ behind) place allowed (column :: outer)) column = false := by
      simp [isDeeper, indent?, block]
    simp [openAt, notDeeper]
  | deeper deeper =>
    have isDeeper : isDeeper (block c (before ++ behind) place allowed indents) column = true := by
      cases indents with
      | nil => rfl
      | cons n indents => simpa [Scanner.isDeeper, indent?, block] using deeper n rfl
    rw [openAt, outside, isDeeper]
    simp [block, insertIdx_length]

theorem openHere_block (opens : Opens token p.column indents opened indents') :
    openHere (block (p.cursor rest) tokens place true indents) token =
      .ok (block (p.cursor rest) (tokens ++ opened) place true indents') := by
  have opened : openAt (block (p.cursor rest) (tokens ++ []) place true indents) p.column tokens.length token =
      block (p.cursor rest) (tokens ++ opened ++ []) place true indents' := openAt_block opens _
  simpa [openHere, block, inFlow] using opened

theorem scanToken_item (s : Scanner) (ahead : s.cursor = p.cursor ('-' :: ' ' :: rest)) :
    s.scanToken '-' = s.scanItem := by
  simp [scanToken, ahead, Cursor.startsMarker, Cursor.peekAt, Cursor.blankAt, isSpace]

theorem scanToken_key (s : Scanner) (ahead : s.cursor = p.cursor ('?' :: ' ' :: rest)) :
    s.scanToken '?' = s.scanKey := by
  simp [scanToken, ahead, Cursor.startsMarker, Cursor.peekAt, Cursor.blankAt, isSpace]

theorem scanToken_value {tail : List Char} (ends : EndsKey tail) (s : Scanner) (ahead : s.cursor = p.cursor tail) :
    s.scanToken ':' = s.scanValue := by
  obtain ⟨c, rest, rfl, rfl | rfl⟩ := ends <;>
    simp [scanToken, ahead, Cursor.startsMarker, Cursor.peekAt, Cursor.blankAt, isSpace, isBreak]

/-- The dash of an item. -/
theorem leads_item (opens : Opens .blockSequence column indents opened indents') (here : p.column = column) :
    Leads (block (p.cursor ('-' :: ' ' :: rest)) tokens none true indents)
      (block ((p.after ['-']).cursor (' ' :: rest)) (tokens ++ opened ++ [.item]) none true indents') := by
  subst here
  refine .of_token (settle_within (begins_cons (by decide)) (outdated_near (near_none _)) opens.within) rfl ?_
    (by simp [block])
  rw [scanToken_item _ rfl, scanItem, openHere_block opens, ok_bind, dropPlace_loose (loose_none _), ok_bind]
  simp [indicator, block]
  rfl

/-- The question mark before a key. -/
theorem leads_key (opens : Opens .blockMapping column indents opened indents') (here : p.column = column) :
    Leads (block (p.cursor ('?' :: ' ' :: rest)) tokens none true indents)
      (block ((p.after ['?']).cursor (' ' :: rest)) (tokens ++ opened ++ [.key]) none true indents') := by
  subst here
  refine .of_token (settle_within (begins_cons (by decide)) (outdated_near (near_none _)) opens.within) rfl ?_
    (by simp [block])
  rw [scanToken_key _ rfl, scanKey, openHere_block opens, ok_bind, dropPlace_loose (loose_none _), ok_bind]
  simp [indicator, block, inFlow]
  rfl

/-- The colon before the value of a key that has a question mark. -/
theorem leads_value (outer : List Nat) (here : p.column = column) :
    Leads (block (p.cursor (':' :: ' ' :: rest)) tokens none true (column :: outer))
      (block ((p.after [':']).cursor (' ' :: rest)) (tokens ++ [.value]) none true (column :: outer)) := by
  subst here
  have opens : Opens .blockMapping p.column (p.column :: outer) [] (p.column :: outer) := .already outer
  have opened : openHere (block (p.cursor (':' :: ' ' :: rest)) tokens none true (p.column :: outer)) .blockMapping =
      .ok (block (p.cursor (':' :: ' ' :: rest)) (tokens ++ []) none true (p.column :: outer)) := openHere_block opens
  refine .of_token (settle_within (begins_cons (by decide)) (outdated_near (near_none _)) opens.within) rfl ?_
    (by simp [block])
  rw [scanToken_value ⟨_, _, rfl, .inl rfl⟩ _ rfl, scanValue]
  simp only [block] at opened ⊢
  rw [opened, ok_bind]
  simp [indicator, inFlow]
  rfl

/-- A place where a key was found. -/
def keyPlace (indents : List Nat) (before : List Token) (cursor : Cursor) : KeyPlace :=
  ⟨indents.head? == some cursor.column, before.length, cursor⟩

/-- The colon before the value of a key on the same line. -/
theorem leads_colon {q : Spot} {tail s : List Char} (opens : Opens .blockMapping column indents opened indents')
    (here : q.column = column)
    (near : Near (some (keyPlace indents before (q.cursor s))) (p.cursor (':' :: tail)))
    (ends : EndsKey (':' :: tail)) (within : q.column ≤ p.column) :
    Leads (block (p.cursor (':' :: tail)) (before ++ behind) (some (keyPlace indents before (q.cursor s))) false indents)
      (block ((p.after [':']).cursor tail) (before ++ opened ++ .key :: behind ++ [.value]) none false indents') := by
  subst here
  have inserted : openAt (block (p.cursor (':' :: tail)) (before ++ .key :: behind) none false indents) q.column
      before.length .blockMapping =
      block (p.cursor (':' :: tail)) (before ++ opened ++ .key :: behind) none false indents' := openAt_block opens _
  have isWithin : Within indents p.column := fun n head => Nat.le_trans (opens.within n head) within
  refine .of_token (settle_within (begins_cons (by decide)) (outdated_near near) isWithin) rfl ?_ (by simp [block])
  rw [scanToken_value ends _ rfl]
  simp only [block] at inserted
  simp only [block, scanValue, keyPlace, Spot.column_cursor, List.insertIdxIfInBounds_toArray, insertIdx_length, inserted]
  simp [indicator]
  rfl

end Indicators

end Scanner

end Upkeep.Yaml
