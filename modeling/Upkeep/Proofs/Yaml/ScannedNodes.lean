import Upkeep.Proofs.Yaml.BlockScalars
import Upkeep.Proofs.Yaml.Scanning
import Upkeep.Proofs.Yaml.Tags

/-! What a scan makes of a tag, of a scalar in each style and of an empty flow collection. Where a key
may start, the token leaves its place behind. -/
namespace Upkeep.Yaml.Scanner

/-- The key place behind a token: its own, if a key may start there. -/
def marked (place : Option KeyPlace) (allowed : Bool) (indents : List Nat) (before : List Token) (cursor : Cursor) :
    Option KeyPlace :=
  if allowed then some (keyPlace indents before cursor) else place

section Tokens

variable {tokens : List Token} {token : Token} {place place' : Option KeyPlace} {allowed : Bool}
  {indents : List Nat} {p : Spot} {c after : Cursor} {rest tail : List Char}

theorem markPlace_block (droppable : allowed = true → Loose place c) :
    markPlace (block c tokens place allowed indents) =
      .ok (block c tokens (marked place allowed indents tokens c) allowed indents) := by
  cases allowed with
  | false => rfl
  | true =>
    have may : (block c tokens place true indents).keyAllowed = true := rfl
    rw [markPlace, if_pos may, dropPlace_loose (droppable rfl)]
    rfl

theorem scanNode_block {read : Cursor → Except Fault (Token × Cursor)} (droppable : allowed = true → Loose place c)
    (reads : read c = .ok (token, after)) :
    scanNode (block c tokens place allowed indents) read =
      .ok (block after (tokens ++ [token]) (marked place allowed indents tokens c) false indents) := by
  rw [scanNode, markPlace_block droppable, ok_bind]
  simp only [block, reads, ok_bind]
  simp
  rfl

/-! ### Tags -/

theorem scanToken_tag (s : Scanner) (ahead : s.cursor = p.cursor ('!' :: rest)) :
    s.scanToken '!' = s.scanNode (Scan.tag s.inFlow) := by
  simp [scanToken, ahead, Cursor.startsMarker]

theorem exists_tagText (name : String) : ∃ rest, Printer.tagText name = '!' :: rest := by
  unfold Printer.tagText
  split
  · exact ⟨_, rfl⟩
  · exact ⟨_, rfl⟩

theorem leads_tag {name : String} (readsBack : Scan.ReadsBack name) (ends : Scan.EndsTag tail)
    (stays : outdated (p.cursor (Printer.tagText name ++ tail)) place = .ok place')
    (droppable : allowed = true → Loose place' (p.cursor (Printer.tagText name ++ tail)))
    (within : Within indents p.column) :
    Leads (block (p.cursor (Printer.tagText name ++ tail)) tokens place allowed indents)
      (block ((p.after (Printer.tagText name)).cursor tail) (tokens ++ [Scan.tagToken name])
        (marked place' allowed indents tokens (p.cursor (Printer.tagText name ++ tail))) false indents) := by
  obtain ⟨rest, form⟩ := exists_tagText name
  have begins : Begins (Printer.tagText name ++ tail) := by
    rw [form]
    exact begins_cons (by decide)
  refine .of_token (settle_within begins stays within) (x := '!') (by rw [form]; rfl) ?_ ?_
  · rw [scanToken_tag _ (by rw [form]; rfl)]
    exact scanNode_block droppable (Scan.tag_name readsBack ends p)
  · simp only [block, form, Spot.cursor, List.cons_append, List.length_cons, List.length_append]
    omega

/-! ### Quoted scalars -/

theorem scanToken_quoted (single : Bool) (s : Scanner) (ahead : s.cursor = p.cursor (Scan.quoteMark single :: rest)) :
    s.scanToken (Scan.quoteMark single) = s.scanNode fun c => do
      let (text, c) ← Scan.quoted single c
      return (.scalar (if single then .singleQuoted else .doubleQuoted) text, c) := by
  cases single <;> simp [scanToken, ahead, Cursor.startsMarker, Scan.quoteMark]

theorem leads_quoted {single : Bool} {text : String} {q : Spot}
    (reads : Scan.quoted single (p.cursor (Scan.quoteMark single :: rest)) = .ok (text, q.cursor tail))
    (forward : tail.length ≤ rest.length)
    (stays : outdated (p.cursor (Scan.quoteMark single :: rest)) place = .ok place')
    (droppable : allowed = true → Loose place' (p.cursor (Scan.quoteMark single :: rest)))
    (within : Within indents p.column) :
    Leads (block (p.cursor (Scan.quoteMark single :: rest)) tokens place allowed indents)
      (block (q.cursor tail) (tokens ++ [.scalar (if single then .singleQuoted else .doubleQuoted) text])
        (marked place' allowed indents tokens (p.cursor (Scan.quoteMark single :: rest))) false indents) := by
  have begins : Begins (Scan.quoteMark single :: rest) := begins_cons (by cases single <;> decide)
  refine .of_token (settle_within begins stays within) rfl ?_ (by simp [block]; omega)
  rw [scanToken_quoted single _ rfl]
  apply scanNode_block droppable
  rw [reads]
  rfl

/-! ### Plain scalars -/

theorem begins_of_fitsPlain {s : List Char} (nonempty : s ≠ []) (fits : Printer.fitsPlain s = true) :
    Begins (s ++ tail) := by
  have words := words_of_fitsPlain nonempty fits
  obtain ⟨x, s, rfl⟩ := List.exists_cons_of_ne_nil nonempty
  have notComment : x ≠ '#' := by
    rintro rfl
    exact words.noComment rfl
  have notMark : x ≠ '\ufeff' := by
    rintro rfl
    have unprintable : Printer.isPrintable '\ufeff' = false := by decide
    simp [Printer.fitsPlain, unprintable] at fits
  exact begins_cons ⟨isSpace_eq_false (words.ne_space rfl) (words.noTab x List.mem_cons_self),
    words.onLine x List.mem_cons_self, notComment, notMark⟩

theorem scanToken_plain {x : Char} {s : List Char} (fits : Printer.fitsPlain (x :: s) = true) {d : Char}
    (head : tail.head? = some d) (ends : d ≠ '-' ∧ d ≠ '.') (t : Scanner)
    (ahead : t.cursor = p.cursor (x :: (s ++ tail))) (outside : t.inFlow = false) : t.scanToken x = t.scanPlain := by
  have words := words_of_fitsPlain (List.cons_ne_nil x s) fits
  have noMarker := startsDocumentMarker_of_fitsPlain (List.cons_ne_nil x s) fits head ends.1 ends.2 p
  rw [Cursor.startsDocumentMarker, Bool.or_eq_false_iff, List.cons_append, ← ahead] at noMarker
  simp only [Printer.fitsPlain, Printer.hasLeadingMark, Bool.and_eq_true, Bool.not_eq_true', Bool.or_eq_false_iff] at fits
  obtain ⟨⟨_, ⟨-, notLeading, mark⟩⟩, -⟩ := fits
  have noSpace : isSpace x = false := isSpace_eq_false (words.ne_space rfl) (words.noTab x List.mem_cons_self)
  have noBreak : isBreak x = false := words.onLine x List.mem_cons_self
  simp only [Printer.isLeadingMark, List.contains_cons, List.contains_nil, Bool.or_false, Bool.or_eq_false_iff,
    beq_eq_false_iff_ne] at notLeading
  by_cases isMark : (x == '-' || x == '?' || x == ':') = true
  · -- one of the marks that a blank would make an indicator
    rw [isMark, Bool.true_and] at mark
    obtain ⟨y, s, rfl⟩ : ∃ y s', s = y :: s' := by
      cases s with
      | nil => cases mark
      | cons y s => exact ⟨y, s, rfl⟩
    simp only [Printer.blankAhead, Bool.or_eq_false_iff] at mark
    have next : t.cursor.peekAt 1 = some y := by rw [ahead]; rfl
    have blankNext : t.cursor.blankAt 1 = false := by simp [Cursor.blankAt, next, mark]
    have plain : t.startsPlain = true := by
      have peek : t.cursor.peek = some x := by rw [ahead]; rfl
      simp only [Bool.or_eq_true, beq_iff_eq] at isMark
      rcases isMark with (rfl | rfl) | rfl <;> simp [startsPlain, peek, next, mark, blankNext, outside]
    simp [scanToken, notLeading, noMarker, outside, plain, blankNext]
  · simp only [Bool.or_eq_true, beq_iff_eq, not_or] at isMark
    have plain : t.startsPlain = true := by
      have peek : t.cursor.peek = some x := by rw [ahead]; rfl
      have peek' : t.cursor.peekAt 0 = some x := by rw [ahead]; rfl
      simp [startsPlain, peek, peek', Cursor.blankAt, startsNoPlain, noSpace, noBreak, isMark, notLeading]
    simp [scanToken, notLeading, noMarker, isMark, plain]

theorem leads_plain {s passed : List Char} {broke : Bool} (nonempty : s ≠ []) (fits : Printer.fitsPlain s = true)
    {least : Nat} (isLeast : least = match indents.head? with | some n => n + 1 | none => 0)
    (ends : EndsPlain least tail passed rest broke)
    (stays : outdated (p.cursor (s ++ tail)) place = .ok place')
    (droppable : allowed = true → Loose place' (p.cursor (s ++ tail))) (within : Within indents p.column) :
    Leads (block (p.cursor (s ++ tail)) tokens place allowed indents)
      (block ((p.after (s ++ passed)).cursor rest) (tokens ++ [.scalar .plain (String.ofList s)])
        (marked place' allowed indents tokens (p.cursor (s ++ tail))) broke indents) := by
  have words := words_of_fitsPlain nonempty fits
  obtain ⟨d, head, noDash, noPoint⟩ : ∃ d, tail.head? = some d ∧ d ≠ '-' ∧ d ≠ '.' := by
    cases ends with
    | key endsKey =>
      obtain ⟨c, rest, rfl, _⟩ := endsKey
      exact ⟨':', rfl, by decide, by decide⟩
    | line n stops left => exact ⟨'\n', rfl, by decide, by decide⟩
  have deep : least ≤ p.column + 1 := by
    rw [isLeast]
    cases indents with
    | nil => exact Nat.zero_le _
    | cons n indents => exact Nat.succ_le_succ (within n rfl)
  have noMarker := startsDocumentMarker_of_fitsPlain nonempty fits head noDash noPoint p
  have scanned := Scan.plain_words words ends noMarker deep
  have begins : Begins (s ++ tail) := begins_of_fitsPlain nonempty fits
  have shorter : rest.length ≤ tail.length := by
    cases ends with
    | key _ => exact Nat.le_refl _
    | line n _ _ => simp; omega
  obtain ⟨x, s, rfl⟩ := List.exists_cons_of_ne_nil nonempty
  refine .of_token (settle_within begins stays within) rfl ?_ (by simp [block]; omega)
  rw [scanToken_plain fits head ⟨noDash, noPoint⟩ _ rfl rfl, scanPlain, markPlace_block droppable, ok_bind]
  subst isLeast
  change Scan.plain false (match indents.head? with | some n => n + 1 | none => 0) (p.cursor (x :: s ++ tail)) >>= _ = _
  rw [scanned]
  simp only [block, List.push_toArray, ok_bind]
  rfl

/-! ### Literal block scalars -/

theorem scanToken_literal (s : Scanner) (ahead : s.cursor = p.cursor ('|' :: rest)) (outside : s.inFlow = false) :
    s.scanToken '|' = s.scanBlock false := by
  simp [scanToken, ahead, Cursor.startsMarker, outside]

theorem leads_literal {k n : Nat} {outer : List Nat} {s text : List Char} (nonempty : s ≠ [])
    (lineEnds : ∀ c ∈ s, isBreak c = true → Spot.IsLineEnd c) (noTab : ∀ c ∈ s, c ≠ '\t')
    (form : text = '|' :: (Printer.literalHints s ++ '\n' ::
      Printer.literalLines (k + 2) true (s ++ Scan.closing s)))
    (less : n < k + 2) (stops : Stops rest)
    (stays : outdated (p.cursor (text ++ (List.replicate n ' ' ++ rest))) place = .ok place')
    (droppable : Loose place' (p.cursor (text ++ (List.replicate n ' ' ++ rest)))) (within : k ≤ p.column) :
    Leads (block (p.cursor (text ++ (List.replicate n ' ' ++ rest))) tokens place allowed (k :: outer))
      (block ((p.after (text ++ List.replicate n ' ')).cursor rest) (tokens ++ [.scalar .literal (String.ofList s)])
        none true (k :: outer)) := by
  have scanned := Scan.block_literal nonempty lineEnds noTab less stops p
  have whole : '|' :: (Printer.literalHints s ++ '\n' :: (Printer.literalLines (k + 2) true (s ++ Scan.closing s) ++
      (List.replicate n ' ' ++ rest))) = text ++ (List.replicate n ' ' ++ rest) := by simp [form]
  have passed : '|' :: (Printer.literalHints s ++ '\n' :: (Printer.literalLines (k + 2) true (s ++ Scan.closing s) ++
      List.replicate n ' ')) = text ++ List.replicate n ' ' := by simp [form]
  rw [whole, passed] at scanned
  have ahead : text ++ (List.replicate n ' ' ++ rest) = '|' :: (text.tail ++ (List.replicate n ' ' ++ rest)) := by
    simp [form]
  have begins : Begins (text ++ (List.replicate n ' ' ++ rest)) := by
    rw [ahead]
    exact begins_cons (by decide)
  have isWithin : Within (k :: outer) p.column := by
    rintro _ ⟨⟩
    exact within
  refine .of_token (settle_within begins stays isWithin) (by rw [ahead]; rfl) ?_ (by simp [block, form]; omega)
  rw [scanToken_literal (p := p) _ (congrArg p.cursor ahead) rfl, scanBlock, dropPlace_loose droppable, ok_bind]
  change Scan.block false (some k) (p.cursor (text ++ (List.replicate n ' ' ++ rest))) >>= _ = _
  rw [scanned]
  simp only [block, List.push_toArray, ok_bind]
  rfl

/-! ### Empty flow collections -/

/-- The brackets of a flow collection, and the tokens for them. -/
structure Brackets where
  opening : Char
  closing : Char
  openToken : Token
  closeToken : Token

/-- The brackets of flow sequences and of flow mappings. -/
def brackets (isMapping : Bool) : Brackets :=
  if isMapping then ⟨'\x7b', '\x7d', .openMapping, .closeMapping⟩ else ⟨'[', ']', .openSequence, .closeSequence⟩

theorem scanToken_opening (isMapping : Bool) (s : Scanner)
    (ahead : s.cursor = p.cursor ((brackets isMapping).opening :: rest)) :
    s.scanToken (brackets isMapping).opening = s.openFlow (brackets isMapping).openToken := by
  cases isMapping <;> simp [scanToken, ahead, Cursor.startsMarker, brackets]

theorem scanToken_closing (isMapping : Bool) (s : Scanner)
    (ahead : s.cursor = p.cursor ((brackets isMapping).closing :: rest)) :
    s.scanToken (brackets isMapping).closing = s.closeFlow (brackets isMapping).closeToken := by
  cases isMapping <;> simp [scanToken, ahead, Cursor.startsMarker, brackets]

theorem leads_opening (isMapping : Bool)
    (stays : outdated (p.cursor ((brackets isMapping).opening :: rest)) place = .ok place')
    (droppable : allowed = true → Loose place' (p.cursor ((brackets isMapping).opening :: rest)))
    (within : Within indents p.column) :
    Leads (block (p.cursor ((brackets isMapping).opening :: rest)) tokens place allowed indents)
      ⟨(p.after [(brackets isMapping).opening]).cursor rest, (tokens ++ [(brackets isMapping).openToken]).toArray,
        [none, marked place' allowed indents tokens (p.cursor ((brackets isMapping).opening :: rest))], true, indents⟩ := by
  have begins : Begins ((brackets isMapping).opening :: rest) := begins_cons (by cases isMapping <;> decide)
  refine .of_token (settle_within begins stays within) rfl ?_ (by simp [block])
  rw [scanToken_opening isMapping (p := p) _ rfl, openFlow, markPlace_block droppable, ok_bind]
  simp [block, indicator]
  cases isMapping <;> rfl

theorem leads_closing (isMapping : Bool)
    (stays : outdated (p.cursor ((brackets isMapping).closing :: rest)) place = .ok place') :
    Leads ⟨p.cursor ((brackets isMapping).closing :: rest), tokens.toArray, [none, place], true, indents⟩
      (block ((p.after [(brackets isMapping).closing]).cursor rest) (tokens ++ [(brackets isMapping).closeToken])
        place' false indents) := by
  have begins : Begins ((brackets isMapping).closing :: rest) := begins_cons (by cases isMapping <;> decide)
  have settled : settle ⟨p.cursor ((brackets isMapping).closing :: rest), tokens.toArray, [none, place], true, indents⟩ =
      .ok ⟨p.cursor ((brackets isMapping).closing :: rest), tokens.toArray, [none, place'], true, indents⟩ := by
    rw [settle, skipToToken_spaces (n := 0) begins _ rfl, dropStale_eq]
    simp only [moveTo, List.mapM_cons, List.mapM_nil, List.replicate_zero, Spot.after_nil, stays]
    rfl
  refine .of_token settled rfl ?_ (by simp [block])
  have kept : dropPlace ⟨p.cursor ((brackets isMapping).closing :: rest), tokens.toArray, [none, place'], true, indents⟩ =
      .ok ⟨p.cursor ((brackets isMapping).closing :: rest), tokens.toArray, [none, place'], true, indents⟩ := rfl
  rw [scanToken_closing isMapping (p := p) _ rfl, closeFlow, kept, ok_bind]
  simp [block, indicator, inFlow]
  cases isMapping <;> rfl

/-- An empty flow collection. -/
theorem leads_brackets (isMapping : Bool) {place'' : Option KeyPlace}
    (stays : outdated (p.cursor ((brackets isMapping).opening :: (brackets isMapping).closing :: tail)) place = .ok place')
    (droppable : allowed = true →
      Loose place' (p.cursor ((brackets isMapping).opening :: (brackets isMapping).closing :: tail)))
    (within : Within indents p.column)
    (stays' : outdated ((p.after [(brackets isMapping).opening]).cursor ((brackets isMapping).closing :: tail))
      (marked place' allowed indents tokens
        (p.cursor ((brackets isMapping).opening :: (brackets isMapping).closing :: tail))) = .ok place'') :
    Leads (block (p.cursor ((brackets isMapping).opening :: (brackets isMapping).closing :: tail)) tokens place allowed
        indents)
      (block ((p.after [(brackets isMapping).opening, (brackets isMapping).closing]).cursor tail)
        (tokens ++ [(brackets isMapping).openToken, (brackets isMapping).closeToken]) place'' false indents) := by
  refine (leads_opening isMapping stays droppable within).trans ?_
  have both : tokens ++ [(brackets isMapping).openToken, (brackets isMapping).closeToken] =
      tokens ++ [(brackets isMapping).openToken] ++ [(brackets isMapping).closeToken] := by simp
  rw [both]
  exact leads_closing isMapping stays'

end Tokens

end Upkeep.Yaml.Scanner
