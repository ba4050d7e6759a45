import Upkeep.Proofs.Yaml.ScannedNodes
import Upkeep.Proofs.Yaml.WrittenTexts

/-! What is written for a value is scanned as the tokens of that value. -/
namespace Upkeep.Yaml.Scanner

open Printer

/-! ### Leaves -/

section Leaves

variable {column k n : Nat} {text rest tail : List Char} {tokens leaf : List Token} {place : Option KeyPlace}
  {allowed : Bool} {indents outer : List Nat} {p : Spot}

theorem Near.of_le {c d : Cursor} (near : Near place d) (line : c.line = d.line) (index : c.index ≤ d.index) :
    Near place c := by
  intro k isPlace
  obtain ⟨sameLine, close⟩ := near k isPlace
  exact ⟨sameLine.trans line.symm, Nat.le_trans index close⟩

/-- A leaf between quotes or brackets. Of its place is known what a place keeps when it grows old. -/
theorem leads_enclosed {place' : Option KeyPlace} (Good : Option KeyPlace → Prop)
    (enclosed : Enclosed column text leaf) (positive : 0 < column) (noQuote : tail.head? ≠ some '\'')
    (stays : outdated (p.cursor (text ++ tail)) place = .ok place')
    (droppable : allowed = true → Loose place' (p.cursor (text ++ tail))) (within : Within indents p.column)
    (good : Good (marked place' allowed indents tokens (p.cursor (text ++ tail))))
    (grows : ∀ c : Cursor, c.line = p.line → c.index ≤ p.index + Cursor.bytes text → ∀ place, Good place →
      ∃ older, Good older ∧ outdated c place = .ok older) :
    ∃ older, Good older ∧
      Leads (block (p.cursor (text ++ tail)) tokens place allowed indents)
        (block ((p.after text).cursor tail) (tokens ++ leaf) older false indents) := by
  have brackets (isMapping : Bool) (form : text = [(brackets isMapping).opening, (brackets isMapping).closing]) :
      ∃ older, Good older ∧ Leads (block (p.cursor (text ++ tail)) tokens place allowed indents)
        (block ((p.after text).cursor tail)
          (tokens ++ [(Scanner.brackets isMapping).openToken, (Scanner.brackets isMapping).closeToken]) older false
          indents) := by
    subst form
    have onLine : isBreak (Scanner.brackets isMapping).opening = false := by cases isMapping <;> rfl
    obtain ⟨older, olderGood, stays'⟩ := grows
      ((p.after [(Scanner.brackets isMapping).opening]).cursor ((Scanner.brackets isMapping).closing :: tail))
      (Spot.line_after (Spot.onLine_singleton onLine))
      (Nat.le_trans (Nat.le_of_eq (Spot.index_after (Spot.onLine_singleton onLine))) (by simp [Cursor.bytes]))
      _ good
    exact ⟨older, olderGood, leads_brackets isMapping stays droppable within stays'⟩
  cases enclosed with
  | single s fits noLineFeed =>
    have reads := Scan.quoted_single positive (.of_fitsSingle fits noLineFeed) p noQuote
    have whole : '\'' :: (singleInside column false s.toList ++ ['\'']) ++ tail =
        '\'' :: (singleInside column false s.toList ++ '\'' :: tail) := by simp
    rw [String.ofList_toList] at reads
    rw [whole] at stays droppable good ⊢
    exact ⟨_, good, leads_quoted reads (by simp; omega) stays droppable within⟩
  | double s =>
    have reads := Scan.quoted_double s.toList p tail
    have whole : '"' :: (s.toList.flatMap doubleCharacter ++ ['"']) ++ tail =
        '"' :: (s.toList.flatMap doubleCharacter ++ '"' :: tail) := by simp
    rw [String.ofList_toList] at reads
    rw [whole] at stays droppable good ⊢
    exact ⟨_, good, leads_quoted reads (by simp; omega) stays droppable within⟩
  | sequence => exact brackets false rfl
  | mapping => exact brackets true rfl

/-- A leaf in front of the colon of its key. -/
theorem leads_inline (written : Written column text leaf) (positive : 0 < column) (onLine : Spot.OnLine text)
    (ends : EndsKey tail) (fresh : allowed = true → place = none) (within : Within indents p.column)
    (near : Near (marked place allowed indents tokens (p.cursor (text ++ tail))) ((p.after text).cursor tail)) :
    Leads (block (p.cursor (text ++ tail)) tokens place allowed indents)
      (block ((p.after text).cursor tail) (tokens ++ leaf)
        (marked place allowed indents tokens (p.cursor (text ++ tail))) false indents) := by
  have passes (s t : List Char) (form : text = s ++ t) : (p.after s).line = (p.after text).line ∧
      (p.after s).index ≤ (p.after text).index := by
    subst form
    obtain ⟨left, right⟩ := List.forall_mem_append.mp onLine
    rw [Spot.line_after left, Spot.line_after onLine, Spot.index_after left, Spot.index_after onLine, bytes_append]
    omega
  have stays : outdated (p.cursor (text ++ tail)) place = .ok place := by
    apply outdated_near
    cases allowed with
    | true =>
      rw [fresh rfl]
      exact near_none _
    | false => exact near.of_le (passes [] text rfl).1 (passes [] text rfl).2
  have droppable : allowed = true → Loose place (p.cursor (text ++ tail)) := by
    intro isAllowed
    rw [fresh isAllowed]
    exact loose_none _
  cases written with
  | plain s nonempty fits =>
    have scanned : Leads _ (block _ (tokens ++ _) _ false indents) :=
      leads_plain (mt String.toList_eq_nil_iff.mp nonempty) fits rfl (.key ends) stays droppable within
    rwa [List.append_nil, String.ofList_toList] at scanned
  | enclosed enclosed =>
    have noQuote : tail.head? ≠ some '\'' := by
      obtain ⟨c, rest, rfl, _⟩ := ends
      rintro ⟨⟩
    obtain ⟨_, rfl, scanned⟩ := leads_enclosed (· = _) enclosed positive noQuote stays
      droppable within rfl (by
        rintro c line index _ rfl
        refine ⟨_, rfl, outdated_near (near.of_le ?_ ?_)⟩
        · rw [line]
          exact (Spot.line_after onLine).symm
        · refine Nat.le_trans index (Nat.le_of_eq ?_)
          exact (Spot.index_after onLine).symm)
    exact scanned
  | literal s _ => exact absurd (onLine '\n' (by simp)) (by decide)

theorem closing_of_onLine {s : List Char} (onLine : Spot.OnLine s) : Scan.closing s = ['\n'] := by
  unfold Scan.closing
  rw [if_neg]
  cases last : s.getLast? with
  | none => simp
  | some c => simp [onLine c (List.mem_of_getLast? last)]

theorem closing_enclosed (enclosed : Enclosed column text leaf) : Scan.closing text = ['\n'] := by
  cases enclosed with
  | single s _ _ => simp [Scan.closing, List.getLast?_cons, isBreak]
  | double s => simp [Scan.closing, List.getLast?_cons, isBreak]
  | sequence => rfl
  | mapping => rfl

theorem getLast?_literalLines (indent : Nat) (atStart : Bool) (s : List Char) :
    (literalLines indent atStart s).getLast? = s.getLast? := by
  induction s generalizing atStart with
  | nil => rfl
  | cons c s ih =>
    unfold literalLines
    split
    · simp [List.getLast?_cons, ih]
    · simp [List.getLast?_cons, List.getLast?_append, ih]

theorem literal_closing (k : Nat) {s : List Char} (nonempty : s ≠ []) :
    ('|' :: (literalHints s ++ '\n' :: literalLines k true s)) ++
        Scan.closing ('|' :: (literalHints s ++ '\n' :: literalLines k true s)) =
      '|' :: (literalHints s ++ '\n' :: literalLines k true (s ++ Scan.closing s)) := by
  have last : ('|' :: (literalHints s ++ '\n' :: literalLines k true s)).getLast? = s.getLast? := by
    simp [List.getLast?_cons, List.getLast?_append, getLast?_literalLines, List.getLast?_eq_some_getLast nonempty]
  have closing : Scan.closing ('|' :: (literalHints s ++ '\n' :: literalLines k true s)) = Scan.closing s := by
    rw [Scan.closing, Scan.closing, last]
  rw [closing, ← Scan.literalLines_append_closing]
  simp

theorem Loose.marked {place : Option KeyPlace} (loose : Loose place (p.cursor text)) (inside : k < p.column) :
    Loose (marked place allowed (k :: outer) tokens (p.cursor text)) (p.cursor text) := by
  cases allowed with
  | false => exact loose
  | true =>
    rintro _ ⟨⟩
    exact ⟨by simp [keyPlace, Nat.ne_of_lt inside], Nat.le_refl _⟩

/-- A leaf and the rest of its line. -/
theorem leads_leafLine (written : Written (k + 2) text leaf) (begins : Begins rest) (left : n ≤ k) (inside : k < p.column)
    (loose : Loose place (p.cursor [])) :
    Leads (block (p.cursor (text ++ Scan.closing text ++ (List.replicate n ' ' ++ rest))) tokens place allowed (k :: outer))
      (block ((p.after (text ++ Scan.closing text ++ List.replicate n ' ')).cursor rest) (tokens ++ leaf) none true
        (k :: outer)) := by
  have within : Within (k :: outer) p.column := by
    rintro _ ⟨⟩
    exact Nat.le_of_lt inside
  obtain ⟨place', loose', stays⟩ := outdated_loose
    (c := p.cursor (text ++ Scan.closing text ++ (List.replicate n ' ' ++ rest))) loose
  have droppable (_ : allowed = true) := loose'
  have good : Loose (Scanner.marked place' allowed (k :: outer) tokens _) _ := loose'.marked inside
  cases written with
  | plain s nonempty fits =>
    have onLine := onLine_of_fitsPlain fits
    have whole : s.toList ++ Scan.closing s.toList ++ (List.replicate n ' ' ++ rest) =
        s.toList ++ '\n' :: (List.replicate n ' ' ++ rest) := by simp [closing_of_onLine onLine]
    have passed : s.toList ++ Scan.closing s.toList ++ List.replicate n ' ' =
        s.toList ++ '\n' :: List.replicate n ' ' := by simp [closing_of_onLine onLine]
    rw [whole] at stays droppable good ⊢
    have scanned : Leads (block _ tokens _ allowed (k :: outer)) _ :=
      leads_plain (mt String.toList_eq_nil_iff.mp nonempty) fits rfl (.line n begins.stops (Nat.lt_succ_of_le left)) stays
        droppable within
    rw [String.ofList_toList] at scanned
    have line : (p.after (s.toList ++ '\n' :: List.replicate n ' ')).line = p.line + 1 := by
      rw [Spot.after_append, Spot.after_cons _ '\n' (List.replicate n ' '), Spot.line_after (Spot.onLine_replicate n),
        (Spot.after_break rfl).1, Spot.line_after onLine]
    rw [passed]
    refine scanned.trans (leads_behind begins ?_ ?_)
    · exact fun key isPlace => ⟨(good key isPlace).1, Nat.le_trans (good key isPlace).2
        (Nat.le_trans (Nat.le_succ p.line) (Nat.le_of_eq line.symm))⟩
    · intro key isPlace
      rw [line]
      exact Nat.lt_succ_of_le (good key isPlace).2
  | enclosed enclosed =>
    have whole : text ++ Scan.closing text ++ (List.replicate n ' ' ++ rest) =
        text ++ '\n' :: (List.replicate n ' ' ++ rest) := by simp [closing_enclosed enclosed]
    have passed : text ++ Scan.closing text ++ List.replicate n ' ' = text ++ '\n' :: List.replicate n ' ' := by
      simp [closing_enclosed enclosed]
    rw [whole] at stays droppable good ⊢
    obtain ⟨older, olderLoose, scanned⟩ := leads_enclosed
      (fun place => Loose place (p.cursor [])) enclosed (by omega) (by rintro ⟨⟩) stays droppable within good (by
        intro c line _ place loose
        obtain ⟨older, olderLoose, stays⟩ := outdated_loose (c := c) fun key isPlace =>
          ⟨(loose key isPlace).1, Nat.le_trans (loose key isPlace).2 (Nat.le_of_eq line.symm)⟩
        exact ⟨older, fun key isPlace => ⟨(olderLoose key isPlace).1,
          Nat.le_trans (olderLoose key isPlace).2 (Nat.le_of_eq line)⟩, stays⟩)
    rw [passed, Spot.after_append]
    exact scanned.trans (leads_line begins fun key isPlace => ⟨(olderLoose key isPlace).1,
      Nat.le_trans (olderLoose key isPlace).2 (Spot.line_le_after p text)⟩)
  | literal s fits =>
    simp only [fitsLiteral, Bool.and_eq_true, Bool.not_eq_true', List.isEmpty_eq_false_iff] at fits
    have printable := List.all_eq_true.mp fits.1.1.2
    rw [literal_closing (k + 2) fits.1.1.1] at stays loose' ⊢
    have scanned : Leads (block (p.cursor _) tokens place allowed (k :: outer)) _ := leads_literal
      fits.1.1.1 (fun c inside lineBreak => Scan.isLineEnd_of_isPrintable (printable c inside) lineBreak)
      (fun c inside => ne_tab_of_isPrintable (printable c inside)) rfl (by omega) begins.stops stays loose'
      (Nat.le_of_lt inside)
    rwa [String.ofList_toList] at scanned

end Leaves

/-! ### Tags in front of nodes -/

/-- The tag, if there is one, is read back. -/
def TagReadsBack (tag : Option String) : Prop :=
  ∀ name, tag = some name → Scan.ReadsBack name

theorem tagReadsBack_none : TagReadsBack none :=
  fun _ isSome => nomatch isSome

section Nodes

variable {k n : Nat} {text rest tail : List Char} {tokens leaf : List Token}
  {allowed : Bool} {indents outer : List Nat} {p : Spot} {place : Place} {tag : Option String}

theorem begins_written (written : Written k text leaf) (tail : List Char) : Begins (text ++ tail) := by
  cases written with
  | plain s nonempty fits => exact begins_of_fitsPlain (mt String.toList_eq_nil_iff.mp nonempty) fits
  | enclosed enclosed => cases enclosed <;> exact begins_cons (by decide)
  | literal s _ => exact begins_cons (by decide)

theorem begins_tagText (name : String) (tail : List Char) : Begins (tagText name ++ tail) := by
  obtain ⟨rest, form⟩ := exists_tagText name
  rw [form]
  exact begins_cons (by decide)

theorem leads_blank (begins : Begins rest) {place : Option KeyPlace} :
    Leads (block (p.cursor (' ' :: rest)) tokens place allowed indents)
      (block ((p.after [' ']).cursor rest) tokens place allowed indents) :=
  leads_spaces (n := 1) begins

/-- A tag behind the mark of its collection. -/
theorem leads_tagInside {name : String} (readsBack : Scan.ReadsBack name) (ends : Scan.EndsTag tail)
    (inside : k < p.column) : ∃ older, Loose older (p.cursor []) ∧
      Leads (block (p.cursor (' ' :: (tagText name ++ tail))) tokens none allowed (k :: outer))
        (block ((p.after (' ' :: tagText name)).cursor tail) (tokens ++ [Scan.tagToken name]) older false (k :: outer)) := by
  have column : k < (p.after [' ']).column := by
    rw [Spot.column_after (Spot.onLine_singleton rfl)]
    exact Nat.lt_succ_of_lt inside
  have within : Within (k :: outer) (p.after [' ']).column := by
    rintro _ ⟨⟩
    exact Nat.le_of_lt column
  have loose : Loose (marked none allowed (k :: outer) tokens _) _ :=
    (loose_none ((p.after [' ']).cursor (tagText name ++ tail))).marked column
  refine ⟨_, loose, ?_⟩
  refine (leads_blank (begins_tagText name tail)).trans ?_
  rw [Spot.after_cons p ' ' (tagText name)]
  exact leads_tag readsBack ends rfl (fun _ => loose_none _) within

/-- The blank and the tag in front of a collection, and what moves its first entry in. -/
theorem leads_lead (isInside : place ≠ .root ∧ place ≠ .key) (readsBack : TagReadsBack tag) (begins : Begins rest)
    {inner : Nat} (inside : k < p.column) :
    Leads (block (p.cursor (leadText place tag true ++ (opening (startsHere place tag) inner ++ rest))) tokens none
        (place != .afterKey) (k :: outer))
      (block ((p.after (leadText place tag true ++ opening (startsHere place tag) inner)).cursor rest)
        (tokens ++ tagTokens tag) none true (k :: outer)) := by
  have blank : (place != .root && place != .key) = true := by simpa using isInside
  cases tag with
  | none =>
    simp only [leadText, tagTokens, Option.map_none, Option.toList_none, List.append_nil]
    cases here : startsHere place none with
    | true =>
      have allowed : (place != .afterKey) = true := by
        cases place <;> simp_all [startsHere]
      rw [allowed]
      exact leads_blank begins
    | false => exact leads_line begins (loose_none _)
  | some name =>
    have form : leadText place (some name) true = ' ' :: tagText name := by simp [leadText, blank]
    have there : startsHere place (some name) = false := rfl
    obtain ⟨older, loose, scanned⟩ := leads_tagInside
      (readsBack name rfl) ⟨_, .inr rfl⟩ inside
    rw [form, there, Spot.after_append]
    refine scanned.trans (leads_line begins fun key isPlace => ⟨(loose key isPlace).1, ?_⟩)
    exact Nat.le_trans (loose key isPlace).2 (Spot.line_le_after p _)

/-- A leaf with its tag, behind the mark of its collection. -/
theorem leads_leaf {value : Value} (isLeaf : isLeaf value = true) (isInside : place ≠ .root ∧ place ≠ .key)
    (readsBack : TagReadsBack tag) (begins : Begins rest) (left : n ≤ k) (inside : k < p.column) :
    Leads (block (p.cursor (nodeText place k tag value ++ (List.replicate n ' ' ++ rest))) tokens none allowed (k :: outer))
      (block ((p.after (nodeText place k tag value ++ List.replicate n ' ')).cursor rest)
        (tokens ++ nodeTokens place tag value) none true (k :: outer)) := by
  have written := written_leaf (k + 2) isLeaf
  have blank : (place != .root && place != .key) = true := by simpa using isInside
  have column {s : List Char} (onLine : Spot.OnLine s) : k < (p.after s).column := by
    rw [Spot.column_after onLine]
    omega
  have begins' : Begins (leafLine (k + 2) value ++ (List.replicate n ' ' ++ rest)) := by
    rw [leafLine, List.append_assoc]
    exact begins_written written _
  rw [nodeText_leaf isLeaf, nodeTokens_leaf isLeaf]
  cases tag with
  | none =>
    have form : leadText place none false = [' '] := by simp [leadText, blank]
    rw [form]
    refine (leads_blank begins').trans ?_
    rw [List.append_assoc, List.singleton_append, Spot.after_cons p ' ' (leafLine (k + 2) value ++ _)]
    exact leads_leafLine written begins left (column (Spot.onLine_singleton rfl)) (loose_none _)
  | some name =>
    have form : leadText place (some name) false = ' ' :: tagText name ++ [' '] := by simp [leadText, blank]
    obtain ⟨older, loose, scanned⟩ := leads_tagInside
      (readsBack name rfl) ⟨_, .inl rfl⟩ inside
    have onLine : Spot.OnLine (' ' :: tagText name ++ [' ']) :=
      .append (.cons rfl (onLine_tagText name)) (Spot.onLine_singleton rfl)
    have leaf : Leads (block _ (tokens ++ [Scan.tagToken name]) _ false (k :: outer)) _ :=
      leads_leafLine written begins left (column onLine) fun key isPlace => ⟨(loose key isPlace).1,
        Nat.le_trans (loose key isPlace).2 (Spot.line_le_after p _)⟩
    rw [form]
    simp only [List.append_assoc, List.cons_append, List.nil_append] at scanned leaf ⊢
    refine scanned.trans ((leads_blank begins').trans ?_)
    rw [← Spot.after_append] at leaf ⊢
    simpa [leafLine, tagTokens] using leaf

theorem near_keyText {key : Value} (simple : isSimpleKey tag key = true) (tail' : List Char) :
    Near (some (keyPlace indents tokens (p.cursor tail))) ((p.after (keyText k tag key)).cursor tail') := by
  obtain ⟨onLine, short⟩ := keyText_onLine k tag key simple
  rintro _ ⟨⟩
  refine ⟨(Spot.line_after onLine).symm, ?_⟩
  change (p.after (keyText k tag key)).index ≤ p.index + 1024
  rw [Spot.index_after onLine]
  omega

/-- A leaf with its tag in front of the colon of its key. -/
theorem leads_keyLeaf {key : Value} (isLeaf : isLeaf key = true) (simple : isSimpleKey tag key = true)
    (readsBack : TagReadsBack tag) (ends : EndsKey tail) (within : Within indents p.column) :
    Leads (block (p.cursor (keyText k tag key ++ tail)) tokens none true indents)
      (block ((p.after (keyText k tag key)).cursor tail) (tokens ++ nodeTokens .key tag key)
        (some (keyPlace indents tokens (p.cursor (keyText k tag key ++ tail)))) false indents) := by
  have written := written_leaf (k + 2) isLeaf
  have onLine := (keyText_onLine k tag key simple).1
  have near : Near (some (keyPlace indents tokens (p.cursor (keyText k tag key ++ tail))))
      ((p.after (keyText k tag key)).cursor tail) := near_keyText simple tail
  rw [keyText_leaf isLeaf] at onLine near ⊢
  rw [nodeTokens_leaf isLeaf]
  cases tag with
  | none => exact leads_inline written (by omega) onLine ends (fun _ => rfl) within near
  | some name =>
    have form : leadText .key (some name) false = tagText name ++ [' '] := by simp [leadText]
    rw [form] at onLine near ⊢
    obtain ⟨lead, leafOnLine⟩ := List.forall_mem_append.mp onLine
    have begins := begins_written written tail
    have within' : Within indents (p.after (tagText name ++ [' '])).column := by
      rw [Spot.column_after lead]
      exact fun n head => Nat.le_trans (within n head) (Nat.le_add_right _ _)
    have scanned : Leads (block (p.cursor (tagText name ++ ' ' :: (leafText (k + 2) key ++ tail))) tokens none true indents)
        _ := leads_tag (readsBack name rfl) ⟨_, .inl rfl⟩ (outdated_near (near_none _)) (fun _ => loose_none _) within
    rw [Spot.after_append] at near
    have leaf : Leads (block _ (tokens ++ [Scan.tagToken name]) _ false indents) _ := leads_inline written
      (by omega) leafOnLine ends (fun isAllowed => nomatch isAllowed) within' near
    simp only [List.append_assoc, List.cons_append, List.nil_append] at scanned leaf ⊢
    refine scanned.trans ((leads_blank begins).trans ?_)
    rw [← Spot.after_append] at leaf ⊢
    simpa [tagTokens, marked] using leaf

/-- A key in front of its colon. -/
theorem leads_keyText (k : Nat) (tag : Option String) (key : Value) (simple : isSimpleKey tag key = true)
    (readsBack : TagReadsBack tag) (tags : key.tagsReadBack = true) (ends : EndsKey tail)
    (within : Within indents p.column) :
    Leads (block (p.cursor (keyText k tag key ++ tail)) tokens none true indents)
      (block ((p.after (keyText k tag key)).cursor tail) (tokens ++ nodeTokens .key tag key)
        (some (keyPlace indents tokens (p.cursor (keyText k tag key ++ tail)))) false indents) := by
  match key with
  | .tagged name value =>
    simp only [Value.tagsReadBack, Bool.and_eq_true, decide_eq_true_eq] at tags
    rw [keyText, nodeTokens]
    refine leads_keyText k (some name) value simple ?_ tags.2 ends within
    rintro _ ⟨⟩
    exact tags.1
  | .sequence (_ :: _) => cases simple
  | .mapping (_ :: _) => cases simple
  | .null | .bool _ | .int _ | .float _ | .text _ | .sequence [] | .mapping [] =>
    exact leads_keyLeaf rfl simple readsBack ends within

/-! ### Nodes -/

theorem head_nodeText (isInside : place ≠ .root ∧ place ≠ .key) (k : Nat) (tag : Option String) (value : Value) :
    ∃ rest, nodeText place k tag value = ' ' :: rest ∨
      place = .afterKey ∧ nodeText place k tag value = '\n' :: rest := by
  have blank : (place != .root && place != .key) = true := by simpa using isInside
  have collection (rest : List Char) (inner : Nat) : ∃ rest',
      leadText place tag true ++ (opening (startsHere place tag) inner ++ rest) = ' ' :: rest' ∨
        place = .afterKey ∧ leadText place tag true ++ (opening (startsHere place tag) inner ++ rest) = '\n' :: rest' := by
    cases tag with
    | none => cases place <;> simp [leadText, startsHere, opening] at isInside ⊢
    | some name => exact ⟨_, .inl (by simp [leadText, blank]; rfl)⟩
  by_cases leaf : isLeaf value = true
  · rw [nodeText_leaf leaf]
    cases tag <;> simp [leadText, blank]
  cases value with
  | sequence items =>
    cases items with
    | nil => exact absurd rfl leaf
    | cons item items =>
      rw [nodeText]
      exact collection _ _
  | mapping entries =>
    cases entries with
    | nil => exact absurd rfl leaf
    | cons entry entries =>
      rw [nodeText]
      exact collection _ _
  | tagged name value =>
    rw [nodeText]
    exact head_nodeText isInside k (some name) value
  | _ => exact absurd rfl leaf

theorem head_afterMark (isInside : place ≠ .root ∧ place ≠ .key) (marked : place ≠ .afterKey) (k : Nat)
    (tag : Option String) (value : Value) : ∃ rest, nodeText place k tag value = ' ' :: rest := by
  obtain ⟨rest, form | ⟨isKey, -⟩⟩ := head_nodeText isInside k tag value
  · exact ⟨rest, form⟩
  · exact absurd isKey marked

theorem begins_keyText (k : Nat) (tag tag' : Option String) (key : Value) (simple : isSimpleKey tag' key = true)
    (tail : List Char) : Begins (keyText k tag key ++ tail) := by
  have leaf (key : Value) (isLeaf : isLeaf key = true) : Begins (keyText k tag key ++ tail) := by
    rw [keyText_leaf isLeaf]
    cases tag with
    | none => exact begins_written (written_leaf _ isLeaf) tail
    | some name =>
      simp only [leadText, List.append_assoc]
      exact begins_tagText name _
  match key with
  | .tagged name value =>
    rw [keyText]
    exact begins_keyText k (some name) (some name) value simple tail
  | .sequence (_ :: _) => cases simple
  | .mapping (_ :: _) => cases simple
  | .null | .bool _ | .int _ | .float _ | .text _ | .sequence [] | .mapping [] => exact leaf _ rfl

theorem begins_itemsText {items : List Value} (nonempty : items ≠ []) (tail : List Char) :
    Begins (itemsText k items ++ tail) := by
  match items with
  | item :: items =>
    rw [itemsText]
    exact begins_cons (by decide)

theorem begins_entriesText {entries : List (Value × Value)} (nonempty : entries ≠ []) (tail : List Char) :
    Begins (entriesText k entries ++ tail) := by
  match entries with
  | (key, value) :: entries =>
    rw [entriesText]
    split
    · rename_i simple
      rw [List.append_assoc, List.append_assoc]
      exact begins_keyText k none none key simple _
    · exact begins_cons (by decide)

theorem isInside_afterDash : Place.afterDash ≠ .root ∧ Place.afterDash ≠ .key := by decide
theorem isInside_afterMark : Place.afterMark ≠ .root ∧ Place.afterMark ≠ .key := by decide
theorem isInside_afterKey : Place.afterKey ≠ .root ∧ Place.afterKey ≠ .key := by decide

theorem Opens.exists_outer {token : Token} {column : Nat} {opened : List Token} {indents' : List Nat}
    (opens : Opens token column indents opened indents') : ∃ outer, indents' = column :: outer := by
  cases opens with
  | already outer => exact ⟨outer, rfl⟩
  | deeper _ => exact ⟨indents, rfl⟩

/-- The first entry of a collection stands in its column. -/
theorem column_after_opening {inner : Nat} (here : startsHere place tag = true → p.column + 1 = inner) :
    (p.after (leadText place tag true ++ opening (startsHere place tag) inner)).column = inner := by
  cases starts : startsHere place tag with
  | true =>
    have noTag : tag = none := by
      cases tag with
      | none => rfl
      | some name => cases starts
    subst noTag
    exact here starts
  | false =>
    have ends : EndsLine (leadText place tag true ++ ['\n']) := ⟨_, _, rfl, rfl⟩
    have column := ends.column_after p inner
    rwa [List.append_assoc] at column

/-- A block collection behind the mark of the collection around it: its first token opens it, and a token
further left closes it. -/
theorem leads_collection {token : Token} {inner : Nat} {body : List Char} {inside' : List Token}
    (isInside : place ≠ .root ∧ place ≠ .key) (readsBack : TagReadsBack tag) (begins : Begins rest) (left : n ≤ k)
    (inside : k < p.column) (here : startsHere place tag = true → p.column + 1 = inner) (deeper : k < inner)
    (ends : EndsLine body) (begins' : Begins (body ++ (List.replicate n ' ' ++ rest)))
    (scanned : ∀ q : Spot, q.column = inner → Leads
      (block (q.cursor (body ++ (List.replicate n ' ' ++ rest))) (tokens ++ tagTokens tag) none true (k :: outer))
      (block ((q.after (body ++ List.replicate n ' ')).cursor rest) (tokens ++ tagTokens tag ++ [token] ++ inside') none true
        (inner :: k :: outer))) :
    Leads (block (p.cursor (leadText place tag true ++ (opening (startsHere place tag) inner ++ body) ++
        (List.replicate n ' ' ++ rest))) tokens none (place != .afterKey) (k :: outer))
      (block ((p.after (leadText place tag true ++ (opening (startsHere place tag) inner ++ body) ++
          List.replicate n ' ')).cursor rest)
        (tokens ++ (tagTokens tag ++ token :: (inside' ++ [.blockEnd]))) none true (k :: outer)) := by
  have lead : Leads (block (p.cursor (leadText place tag true ++ (opening (startsHere place tag) inner ++ _))) tokens none
      (place != .afterKey) (k :: outer)) _ := leads_lead isInside readsBack begins' inside
  have whole := (lead.trans (scanned _ (column_after_opening here))).trans
    (leads_close begins (by rw [ends.column_after]; omega))
  rw [← Spot.after_append] at whole
  simpa using whole

/-- The node is scanned as its tokens, at every place behind a mark in a column. -/
def ScansNode (place : Place) (k : Nat) (value : Value) (outer : List Nat) : Prop :=
  ∀ {p : Spot} {n : Nat} {rest : List Char} {tokens : List Token}, Begins rest → n ≤ k → k < p.column →
    (place ≠ .afterKey → p.column = k + 1) → Leads
      (block (p.cursor (nodeText place k none value ++ (List.replicate n ' ' ++ rest))) tokens none (place != .afterKey)
        (k :: outer))
      (block ((p.after (nodeText place k none value ++ List.replicate n ' ')).cursor rest)
        (tokens ++ nodeTokens place none value) none true (k :: outer))

/-- An entry whose key stands in front of its colon. -/
theorem leads_simpleEntry {opened : List Token} {key value : Value}
    (opens : Opens .blockMapping k indents opened (k :: outer)) (column : p.column = k)
    (simple : isSimpleKey none key = true) (tags : key.tagsReadBack = true) (scans : ScansNode .afterKey k value outer)
    (begins : Begins rest) (left : n ≤ k) :
    Leads
      (block (p.cursor (keyText k none key ++ ':' :: nodeText .afterKey k none value ++ (List.replicate n ' ' ++ rest)))
        tokens none true indents)
      (block ((p.after (keyText k none key ++ ':' :: nodeText .afterKey k none value ++ List.replicate n ' ')).cursor rest)
        (tokens ++ opened ++ .key :: (nodeTokens .key none key ++ .value :: nodeTokens .afterKey none value)) none true
        (k :: outer)) := by
  have onLine := (keyText_onLine k none key simple).1
  have ends : EndsKey (':' :: (nodeText .afterKey k none value ++ (List.replicate n ' ' ++ rest))) := by
    obtain ⟨text, form | ⟨-, form⟩⟩ := head_nodeText isInside_afterKey k none value
    · exact ⟨' ', _, by rw [form]; rfl, .inl rfl⟩
    · exact ⟨'\n', _, by rw [form]; rfl, .inr rfl⟩
  have columnAfter : (p.after (keyText k none key)).column = k + (keyText k none key).length := by
    rw [Spot.column_after onLine, column]
  have keyed : Leads (block (p.cursor (keyText k none key ++ _)) tokens none true indents) _ :=
    leads_keyText k none key simple tagReadsBack_none tags ends (column ▸ opens.within)
  have inside : k < ((p.after (keyText k none key)).after [':']).column := by
    rw [Spot.column_after (Spot.onLine_singleton rfl), columnAfter]
    exact Nat.lt_succ_of_le (Nat.le_add_right _ _)
  have whole := (keyed.trans (leads_colon opens column (near_keyText simple _) ends (by omega))).trans
    (scans begins left inside (fun elsewhere => absurd rfl elsewhere))
  rw [← Spot.after_append, ← Spot.after_append] at whole
  simpa using whole

/-- An entry whose key and value have marks of their own. -/
theorem leads_markedEntry {opened : List Token} {key value : Value}
    (opens : Opens .blockMapping k indents opened (k :: outer)) (column : p.column = k)
    (scansKey : ScansNode .afterMark k key outer) (scans : ScansNode .afterMark k value outer)
    (begins : Begins rest) (left : n ≤ k) :
    Leads
      (block (p.cursor ('?' :: (nodeText .afterMark k none key ++ (spaces k ++ ':' :: nodeText .afterMark k none value)) ++
        (List.replicate n ' ' ++ rest))) tokens none true indents)
      (block ((p.after ('?' :: (nodeText .afterMark k none key ++ (spaces k ++ ':' :: nodeText .afterMark k none value)) ++
          List.replicate n ' ')).cursor rest)
        (tokens ++ opened ++ .key :: (nodeTokens .afterMark none key ++ .value :: nodeTokens .afterMark none value)) none
        true (k :: outer)) := by
  obtain ⟨keyHead, keyForm⟩ := head_afterMark isInside_afterMark (by decide) k none key
  obtain ⟨valueHead, valueForm⟩ := head_afterMark isInside_afterMark (by decide) k none value
  have oneFurther (q : Spot) (here : q.column = k) (c : Char) (onLine : isBreak c = false) :
      (q.after [c]).column = k + 1 := by
    rw [Spot.column_after (Spot.onLine_singleton onLine), here]
    rfl
  have keyEnds : EndsLine ('?' :: nodeText .afterMark k none key) := (endsLine_nodeText .afterMark k none key).cons '?'
  have here : (p.after ('?' :: (nodeText .afterMark k none key ++ spaces k))).column = k := keyEnds.column_after p k
  have question : Leads (block (p.cursor ('?' :: ' ' :: (keyHead ++ (spaces k ++ (':' :: nodeText .afterMark k none value ++
      (List.replicate n ' ' ++ rest)))))) tokens none true indents) _ := leads_key opens column
  have keyed : Leads (block ((p.after ['?']).cursor (nodeText .afterMark k none key ++ (spaces k ++
      (':' :: nodeText .afterMark k none value ++ (List.replicate n ' ' ++ rest))))) (tokens ++ opened ++ [.key]) none true
      (k :: outer)) _ := scansKey (begins_cons (by decide)) (Nat.le_refl k) (by rw [oneFurther p column '?' rfl]; omega)
        (fun _ => oneFurther p column '?' rfl)
  have node : Leads (block (((p.after ('?' :: (nodeText .afterMark k none key ++ spaces k))).after [':']).cursor
      (nodeText .afterMark k none value ++ (List.replicate n ' ' ++ rest)))
      (tokens ++ opened ++ [.key] ++ nodeTokens .afterMark none key ++ [.value]) none true (k :: outer)) _ :=
    scans begins left (by rw [oneFurther _ here ':' rfl]; omega) (fun _ => oneFurther _ here ':' rfl)
  rw [← Spot.after_append] at keyed
  rw [keyForm] at here
  rw [keyForm, valueForm] at keyed node ⊢
  rw [valueForm] at question
  have whole := ((question.trans keyed).trans (leads_value outer here)).trans node
  rw [← Spot.after_append, ← Spot.after_append] at whole
  simpa using whole

mutual

/-- A node behind the mark of its collection is scanned as its tokens. -/
theorem leads_nodeText {place : Place} (isInside : place ≠ .root ∧ place ≠ .key) (k : Nat) (tag : Option String)
    (readsBack : TagReadsBack tag) (value : Value) (tags : value.tagsReadBack = true) {p : Spot} {n : Nat}
    {rest : List Char} {tokens : List Token} {outer : List Nat} (begins : Begins rest) (left : n ≤ k)
    (inside : k < p.column) (behind : place ≠ .afterKey → p.column = k + 1) :
    Leads
      (block (p.cursor (nodeText place k tag value ++ (List.replicate n ' ' ++ rest))) tokens none (place != .afterKey)
        (k :: outer))
      (block ((p.after (nodeText place k tag value ++ List.replicate n ' ')).cursor rest)
        (tokens ++ nodeTokens place tag value) none true (k :: outer)) := by
  have here (starts : startsHere place tag = true) : p.column + 1 = k + 2 := by
    rw [behind]
    rintro rfl
    simp [startsHere] at starts
  match value with
  | .tagged name value =>
    simp only [Value.tagsReadBack, Bool.and_eq_true, decide_eq_true_eq] at tags
    rw [nodeText, nodeTokens]
    refine leads_nodeText isInside k (some name) ?_ value tags.2 begins left inside behind
    rintro _ ⟨⟩
    exact tags.1
  | .sequence (item :: items) =>
    have nonempty := List.cons_ne_nil item items
    simp only [Value.tagsReadBack] at tags
    rw [nodeText, nodeTokens]
    cases dashed : isDashed place tag with
    | true =>
      have elsewhere : startsHere place tag = false := by
        cases place <;> cases tag <;> simp_all [isDashed, startsHere]
      have lead : Leads (block (p.cursor (leadText place tag true ++ (opening (startsHere place tag) k ++ _))) tokens none
          (place != .afterKey) (k :: outer)) _ :=
        leads_lead isInside readsBack (begins_itemsText (k := k) nonempty (List.replicate n ' ' ++ rest)) inside
      have whole := lead.trans (leads_itemsText k (item :: items) nonempty tags (.already outer) begins left
        (column_after_opening (by simp [elsewhere])))
      rw [← Spot.after_append] at whole
      simpa using whole
    | false =>
      have deeper (m : Nat) (head : (k :: outer).head? = some m) : m < k + 2 := by
        obtain rfl := Option.some.inj head
        omega
      simp only [Bool.false_eq_true, ↓reduceIte]
      exact leads_collection isInside readsBack begins left inside here (by omega)
        (endsLine_itemsText _ (item :: items) nonempty) (begins_itemsText nonempty _)
        fun q column => leads_itemsText (k + 2) (item :: items) nonempty tags (.deeper deeper) begins (by omega) column
  | .mapping (entry :: entries) =>
    have nonempty := List.cons_ne_nil entry entries
    have deeper (m : Nat) (head : (k :: outer).head? = some m) : m < k + 2 := by
      obtain rfl := Option.some.inj head
      omega
    simp only [Value.tagsReadBack] at tags
    rw [nodeText, nodeTokens]
    exact leads_collection isInside readsBack begins left inside here (by omega)
      (endsLine_entriesText _ (entry :: entries) nonempty) (begins_entriesText nonempty _)
      fun q column => leads_entriesText (k + 2) (entry :: entries) nonempty tags (.deeper deeper) begins (by omega) column
  | .null | .bool _ | .int _ | .float _ | .text _ | .sequence [] | .mapping [] =>
    exact leads_leaf rfl isInside readsBack begins left inside

/-- The items of a sequence are scanned as their tokens. -/
theorem leads_itemsText (k : Nat) (items : List Value) (nonempty : items ≠ [])
    (tags : Value.itemsReadBack items = true) {p : Spot} {n : Nat} {rest : List Char} {tokens opened : List Token}
    {indents indents' : List Nat} (opens : Opens .blockSequence k indents opened indents') (begins : Begins rest)
    (left : n ≤ k) (column : p.column = k) :
    Leads (block (p.cursor (itemsText k items ++ (List.replicate n ' ' ++ rest))) tokens none true indents)
      (block ((p.after (itemsText k items ++ List.replicate n ' ')).cursor rest)
        (tokens ++ opened ++ itemsTokens items) none true indents') := by
  match items with
  | [] => exact absurd rfl nonempty
  | item :: items =>
    simp only [Value.itemsReadBack, Bool.and_eq_true] at tags
    obtain ⟨outer, rfl⟩ := opens.exists_outer
    have one {n : Nat} {rest : List Char} (begins : Begins rest) (left : n ≤ k) :
        Leads
          (block (p.cursor ('-' :: (nodeText .afterDash k none item ++ (List.replicate n ' ' ++ rest)))) tokens none true
            indents)
          (block ((p.after ('-' :: (nodeText .afterDash k none item ++ List.replicate n ' '))).cursor rest)
            (tokens ++ opened ++ [.item] ++ nodeTokens .afterDash none item) none true (k :: outer)) := by
      obtain ⟨head, form⟩ := head_afterMark isInside_afterDash (by decide) k none item
      have behind : (p.after ['-']).column = k + 1 := by
        rw [Spot.column_after (Spot.onLine_singleton rfl), column]
        rfl
      have node : Leads (block _ (tokens ++ opened ++ [.item]) none true (k :: outer)) _ :=
        leads_nodeText isInside_afterDash k none tagReadsBack_none item tags.1 begins left (by omega) (fun _ => behind)
      rw [Spot.after_cons p '-' (_ ++ _)]
      rw [form] at node ⊢
      exact (leads_item opens column).trans node
    rw [itemsText, itemsTokens]
    by_cases last : items = []
    · subst last
      simpa [between, itemsText, itemsTokens] using one begins left
    · have first := one (begins_itemsText (k := k) last (List.replicate n ' ' ++ rest)) (Nat.le_refl k)
      have column' := ((endsLine_nodeText .afterDash k none item).cons '-').column_after p k
      have whole := first.trans (leads_itemsText k items last tags.2 (.already outer) begins left column')
      rw [← Spot.after_append] at whole
      simpa [between, last, spaces] using whole

/-- The entries of a mapping are scanned as their tokens. -/
theorem leads_entriesText (k : Nat) (entries : List (Value × Value)) (nonempty : entries ≠ [])
    (tags : Value.entriesReadBack entries = true) {p : Spot} {n : Nat} {rest : List Char} {tokens opened : List Token}
    {indents indents' : List Nat} (opens : Opens .blockMapping k indents opened indents') (begins : Begins rest)
    (left : n ≤ k) (column : p.column = k) :
    Leads (block (p.cursor (entriesText k entries ++ (List.replicate n ' ' ++ rest))) tokens none true indents)
      (block ((p.after (entriesText k entries ++ List.replicate n ' ')).cursor rest)
        (tokens ++ opened ++ entriesTokens entries) none true indents') := by
  match entries with
  | [] => exact absurd rfl nonempty
  | (key, value) :: entries =>
    simp only [Value.entriesReadBack, Bool.and_eq_true] at tags
    obtain ⟨outer, rfl⟩ := opens.exists_outer
    have scansValue {place : Place} (isInside : place ≠ .root ∧ place ≠ .key) : ScansNode place k value outer :=
      leads_nodeText isInside k none tagReadsBack_none value tags.1.2
    have scansKey : ScansNode .afterMark k key outer :=
      leads_nodeText isInside_afterMark k none tagReadsBack_none key tags.1.1
    rw [entriesText, entriesTokens]
    generalize written : (if isSimpleKey none key = true then
        keyText k none key ++ ':' :: nodeText .afterKey k none value
      else '?' :: (nodeText .afterMark k none key ++ (spaces k ++ ':' :: nodeText .afterMark k none value))) = entry
    have one {n : Nat} {rest : List Char} (begins : Begins rest) (left : n ≤ k) :
        Leads (block (p.cursor (entry ++ (List.replicate n ' ' ++ rest))) tokens none true indents)
          (block ((p.after (entry ++ List.replicate n ' ')).cursor rest)
            (tokens ++ opened ++ .key :: (nodeTokens (placeOfKey key) none key ++
              .value :: nodeTokens (placeUnder key) none value)) none true (k :: outer)) := by
      rw [← written, placeOfKey, placeUnder]
      split
      · rename_i simple
        exact leads_simpleEntry opens column simple tags.1.1 (scansValue isInside_afterKey) begins left
      · exact leads_markedEntry opens column scansKey (scansValue isInside_afterMark) begins left
    by_cases last : entries = []
    · subst last
      simpa [between, entriesText, entriesTokens] using one begins left
    · have first := one (begins_entriesText (k := k) last (List.replicate n ' ' ++ rest)) (Nat.le_refl k)
      have ends : EndsLine entry := by
        rw [← written]
        split
        · exact ((endsLine_nodeText .afterKey k none value).cons ':').append _
        · exact ((((endsLine_nodeText .afterMark k none value).cons ':').append _).append _).cons '?'
      have whole := first.trans (leads_entriesText k entries last tags.2 (.already outer) begins left (ends.column_after p k))
      rw [← Spot.after_append] at whole
      simpa [between, last, spaces] using whole

end

end Nodes

end Upkeep.Yaml.Scanner
