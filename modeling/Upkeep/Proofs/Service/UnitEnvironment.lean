import Mathlib.Data.List.Basic
import Upkeep.Proofs.Service.UnitFile
import Upkeep.Proofs.World.FailClosed

/-! What the system reads back from the environment of a unit. A variable stands on a line of its
own between double quotes, where a backslash keeps the next backslash or quote from its meaning and
percent signs are doubled. Reading such a line gives the name and the value that were written, so a
unit tells the whole environment that it was rendered for. -/
namespace Upkeep

namespace ServiceUnit

/-- Characters that may start the name of a variable. -/
def LeadsName (c : Char) : Prop :=
  'A' ≤ c ∧ c ≤ 'Z' ∨ 'a' ≤ c ∧ c ≤ 'z' ∨ c = '_'

/-- Names that the system takes: letters, digits and underscores up to the end, no digit first. -/
def IsName (name : String) : Prop :=
  ∃ first rest, name.toList = first :: rest ∧ LeadsName first ∧
    ∀ c ∈ rest, LeadsName c ∨ '0' ≤ c ∧ c ≤ '9'

/-- Texts without control characters, those of the Unicode category Cc. -/
def IsPlain (text : String) : Prop :=
  ∀ c ∈ text.toList, 0x20 ≤ c.toNat ∧ (c.toNat < 0x7F ∨ 0x9F < c.toNat)

instance (text : String) : Decidable (IsPlain text) :=
  List.decidableBAll _ text.toList

/-- Reads up to the first quote that no backslash stands before. Gives what is said and what follows
that quote. -/
def unquoted? : List Char → Option (List Char × List Char)
  | [] => none
  | '"' :: rest => some ([], rest)
  | '\\' :: '\\' :: rest => (unquoted? rest).map (Prod.map ('\\' :: ·) id)
  | '\\' :: '"' :: rest => (unquoted? rest).map (Prod.map ('"' :: ·) id)
  | '\\' :: _ => none
  | '%' :: '%' :: rest => (unquoted? rest).map (Prod.map ('%' :: ·) id)
  | '%' :: _ => none
  | c :: rest => (unquoted? rest).map (Prod.map (c :: ·) id)

/-- The name and the value that a line assigns. Nothing may follow the quote at its end. -/
def assignment? (line : String) : Option (String × String) := do
  let quoted ← Text.after? "Environment=\"".toList line.toList
  let (said, []) ← unquoted? quoted | none
  let (name, value) ← Text.cutFirst ['='] said
  return (String.ofList name, String.ofList value)

variable {u : ServiceUnit} {c : Char} {name value text : String} {e e' : Environment}
  {lines : List String} {entry : String × String}

theorem startsName_iff : startsName c = true ↔ LeadsName c := by
  unfold startsName LeadsName Char.isAlpha Char.isUpper Char.isLower
  simp only [Bool.or_eq_true, Bool.and_eq_true, decide_eq_true_eq, beq_iff_eq, or_assoc]
  rfl

theorem inName_iff : inName c = true ↔ LeadsName c ∨ '0' ≤ c ∧ c ≤ '9' := by
  rw [← startsName_iff]
  simp only [inName, startsName, Char.isAlphanum, Char.isDigit, Bool.or_eq_true, Bool.and_eq_true,
    decide_eq_true_eq]
  exact or_right_comm

theorem isVariableName_iff : isVariableName name = true ↔ IsName name := by
  unfold isVariableName IsName
  cases name.toList with
  | nil => simp
  | cons first rest =>
    simp only [Bool.and_eq_true, List.all_eq_true, startsName_iff, inName_iff, List.cons.injEq]
    constructor
    · rintro ⟨leads, follow⟩
      exact ⟨first, rest, ⟨rfl, rfl⟩, leads, follow⟩
    · rintro ⟨_, _, ⟨rfl, rfl⟩, leads, follow⟩
      exact ⟨leads, follow⟩

instance (name : String) : Decidable (IsName name) :=
  decidable_of_iff _ isVariableName_iff

theorem hasControl_eq_false_iff : hasControl value = false ↔ IsPlain value := by
  simp only [hasControl, Text.isControl, IsPlain, List.any_eq_false, Bool.or_eq_true,
    Bool.and_eq_true, decide_eq_true_eq]
  refine forall_congr' fun c => forall_congr' fun _ => ?_
  omega

/-- An escaped character is read as the character. -/
theorem unquoted?_escaped_append (c : Char) (rest : List Char) :
    unquoted? (escaped c ++ rest) = (unquoted? rest).map (Prod.map (c :: ·) id) := by
  by_cases backslash : c = '\\'
  · subst backslash
    rfl
  · by_cases quote : c = '"'
    · subst quote
      rfl
    · by_cases percent : c = '%'
      · subst percent
        rfl
      · simp only [escaped, backslash, quote, percent, ↓reduceIte, List.singleton_append]
        rw [unquoted?] <;> simp_all

/-- What is escaped before a quote is read up to that quote. -/
theorem unquoted?_flatMap_escaped (text rest : List Char) :
    unquoted? (text.flatMap escaped ++ '"' :: rest) = some (text, rest) := by
  induction text with
  | nil => rfl
  | cons c text ih =>
    rw [List.flatMap_cons, List.append_assoc, unquoted?_escaped_append, ih]
    rfl

/-- The characters of a name are none of those that have a meaning between quotes. -/
theorem IsName.ordinary (named : IsName name) :
    ∀ c ∈ name.toList, escaped c = [c] ∧ c ≠ '=' ∧ 0x20 ≤ c.toNat ∧ c.toNat < 0x7F := by
  obtain ⟨first, rest, chars, leads, follow⟩ := named
  have inside : ∀ c ∈ name.toList, LeadsName c ∨ '0' ≤ c ∧ c ≤ '9' := by
    intro c member
    rw [chars] at member
    rcases List.mem_cons.mp member with rfl | member
    · exact .inl leads
    · exact follow c member
  intro c member
  have range : (65 ≤ c.toNat ∧ c.toNat ≤ 90 ∨ 97 ≤ c.toNat ∧ c.toNat ≤ 122 ∨ c = '_') ∨
      48 ≤ c.toNat ∧ c.toNat ≤ 57 := inside c member
  have apart {d : Char} (outside : ¬((65 ≤ d.toNat ∧ d.toNat ≤ 90 ∨
      97 ≤ d.toNat ∧ d.toNat ≤ 122 ∨ d = '_') ∨ 48 ≤ d.toNat ∧ d.toNat ≤ 57)) : c ≠ d := by
    rintro rfl
    exact outside range
  refine ⟨?_, apart (by decide), ?_⟩
  · simp only [escaped, if_neg (apart (d := '\\') (by decide)), if_neg (apart (d := '"') (by decide)),
      if_neg (apart (d := '%') (by decide))]
  · rcases range with (upper | lower | rfl) | digit
    · omega
    · omega
    · decide
    · omega

/-- A name is not changed by escaping. -/
theorem IsName.flatMap_escaped (named : IsName name) : name.toList.flatMap escaped = name.toList := by
  rw [List.flatMap_congr fun c member => (named.ordinary c member).1]
  exact List.flatMap_singleton' name.toList

/-- The line of a variable that is accepted is read as its name and value. -/
theorem assignment?_variableLine (named : IsName entry.1) :
    assignment? (variableLine entry) = some entry := by
  have quoted : Text.after? "Environment=\"".toList (variableLine entry).toList =
      some ((entry.1.toList ++ '=' :: entry.2.toList).flatMap escaped ++ ['"']) := by
    rw [Text.after?_eq_some_iff, toList_variableLine]
    simp only [toList_escapedValue, List.flatMap_append, named.flatMap_escaped,
      List.flatMap_cons, List.append_assoc]
    rfl
  have absent : '=' ∉ entry.1.toList := fun member => (named.ordinary _ member).2.1 rfl
  unfold assignment?
  rw [quoted]
  simp only [Option.bind_eq_bind, Option.bind_some, unquoted?_flatMap_escaped,
    Text.cutFirst_singleton absent, String.ofList_toList]
  rfl

theorem mem_escaped {d : Char} (member : d ∈ escaped c) : d = c ∨ d = '\\' ∨ d = '%' := by
  unfold escaped at member
  split at member
  · simp_all
  · split at member
    · rcases List.mem_pair.mp member with rfl | rfl <;> simp_all
    · split at member <;> simp_all

/-- The line of a variable that is accepted holds no control characters. -/
theorem IsPlain.variableLine (named : IsName entry.1) (plain : IsPlain entry.2) :
    IsPlain (variableLine entry) := by
  have label : IsPlain "Environment=\"" ∧ IsPlain "=" ∧ IsPlain "\"" := by decide
  have ordinary : IsPlain entry.1 := by
    intro c member
    obtain ⟨-, -, printed, ascii⟩ := named.ordinary c member
    exact ⟨printed, .inl ascii⟩
  have kept : IsPlain (escapedValue entry.2) := by
    intro d member
    rw [toList_escapedValue] at member
    obtain ⟨c, among, written⟩ := List.mem_flatMap.mp member
    rcases mem_escaped written with rfl | rfl | rfl
    · exact plain d among
    · decide
    · decide
  intro c member
  simp only [toList_variableLine, List.mem_append] at member
  rcases member with (((start | name) | equals) | value) | stop
  · exact label.1 c start
  · exact ordinary c name
  · exact label.2.1 c equals
  · exact kept c value
  · exact label.2.2 c stop

/-- Variables that the system takes, with values that stay on their lines. -/
def Accepts (e : Environment) : Prop :=
  ∀ entry ∈ e.toList, IsName entry.1 ∧ IsPlain entry.2

/-- Exactly the accepted environments have lines, one for each variable. -/
theorem environmentLines_eq_ok_iff :
    environmentLines e = .ok lines ↔ Accepts e ∧ lines = e.toList.map variableLine := by
  constructor
  · intro written
    obtain ⟨same, accepted⟩ := environmentLines_eq_ok written
    refine ⟨fun entry member => ?_, same⟩
    obtain ⟨named, plain⟩ := accepted entry member
    exact ⟨isVariableName_iff.mp named, hasControl_eq_false_iff.mp plain⟩
  · rintro ⟨accepted, rfl⟩
    have line : ∀ entry ∈ e.toList, environmentLine entry.1 entry.2 = .ok (variableLine entry) := by
      intro entry member
      obtain ⟨named, plain⟩ := accepted entry member
      exact environmentLine_eq_ok.mpr
        ⟨isVariableName_iff.mpr named, hasControl_eq_false_iff.mpr plain, rfl⟩
    change e.toList.mapM (fun entry => environmentLine entry.1 entry.2) = _
    generalize e.toList = entries at line ⊢
    induction entries with
    | nil => rfl
    | cons entry rest ih =>
      obtain ⟨first, later⟩ := List.forall_mem_cons.mp line
      rw [List.mapM_cons, first, ih later]
      rfl

/-- Exactly the units with an accepted environment are rendered. -/
theorem render_eq_ok_iff : u.render = .ok text ↔ Accepts u.environment ∧
    text = textOfLines (u.opening ++ u.environment.toList.map variableLine ++ u.closing) := by
  constructor
  · intro rendered
    obtain ⟨lines, written, rfl⟩ := lines_of_render rendered
    obtain ⟨accepted, rfl⟩ := environmentLines_eq_ok_iff.mp written
    exact ⟨accepted, rfl⟩
  · rintro ⟨accepted, rfl⟩
    have written := environmentLines_eq_ok_iff.mpr ⟨accepted, rfl⟩
    simp only [render, written]
    rfl

/-- The lines of an accepted environment are read as its variables. -/
theorem Accepts.assignments (accepted : Accepts e) :
    (e.toList.map variableLine).map assignment? = e.toList.map some := by
  rw [List.map_map]
  exact List.map_congr_left fun entry member => assignment?_variableLine (accepted entry member).1

theorem textOfLines_append (lines more : List String) :
    (textOfLines (lines ++ more)).toList = (textOfLines lines).toList ++ (textOfLines more).toList := by
  simp only [textOfLines, List.map_append, String.toList_join, List.flatMap_append]

/-- The variables of an accepted environment have lines of their own. -/
theorem Accepts.splitOn (accepted : Accepts e) :
    (textOfLines (e.toList.map variableLine)).toList.splitOn '\n' =
      (e.toList.map variableLine).map String.toList ++ [[]] := by
  rw [splitOn_textOfLines_iff]
  intro line member
  obtain ⟨entry, among, rfl⟩ := List.mem_map.mp member
  obtain ⟨named, plain⟩ := accepted entry among
  exact not_mem_variableLine (isVariableName_iff.mpr named) (hasControl_eq_false_iff.mpr plain)

/-- Equal units tell of equal environments. -/
theorem environment_unique
    (rendered : ServiceUnit.render { u with environment := e } = .ok text)
    (rendered' : ServiceUnit.render { u with environment := e' } = .ok text) : e = e' := by
  obtain ⟨accepted, said⟩ := render_eq_ok_iff.mp rendered
  obtain ⟨accepted', said'⟩ := render_eq_ok_iff.mp rendered'
  dsimp only at accepted accepted' said said'
  have texts := congrArg String.toList (said.symm.trans said')
  simp only [textOfLines_append, opening, closing, execStart, List.append_assoc,
    List.append_cancel_left_eq, List.append_cancel_right_eq] at texts
  have lines : (e.toList.map variableLine).map String.toList ++ [[]] =
      (e'.toList.map variableLine).map String.toList ++ [[]] := by
    rw [← accepted.splitOn, ← accepted'.splitOn, texts]
  have written : e.toList.map variableLine = e'.toList.map variableLine :=
    List.map_injective_iff.mpr (fun _ _ => String.toList_injective) (List.append_cancel_right lines)
  have entries : e.toList.map some = e'.toList.map some := by
    rw [← accepted.assignments, ← accepted'.assignments, written]
  rw [← SortedMap.ofList_toList e, ← SortedMap.ofList_toList e',
    List.map_injective_iff.mpr (fun _ _ => Option.some.inj) entries]

end ServiceUnit

namespace Service

variable {s : Service} {e e' : Environment} {c c' : Config} {files files' : ServiceFiles}

/-- A unit that was rendered for another environment is not the one that shall be there. -/
theorem unit_bytes_ne (rendered : s.render e c = .ok files) (rendered' : s.render e' c' = .ok files')
    (other : e ≠ e') : files.unit.bytes ≠ files'.unit.bytes := by
  obtain ⟨text, -, unit, -, rfl⟩ := eq_of_render rendered
  obtain ⟨text', -, unit', -, rfl⟩ := eq_of_render rendered'
  intro same
  have decoded : some text = some text' := by
    rw [← Text.fromUTF8?_eq_some.mpr rfl, ← Text.fromUTF8?_eq_some.mpr rfl]
    exact congrArg String.fromUTF8? same
  cases decoded
  exact other (ServiceUnit.environment_unique (u := s.unit ∅) unit unit')

/-- A unit file that was rendered for another environment is found stale. -/
theorem isStale_of_environment_ne (rendered : s.render e c = .ok files)
    (rendered' : s.render e' c' = .ok files') (other : e ≠ e') (q : Equipment) {w : World}
    (there : w.disk.read files.unit.path = .ok files.unit.bytes) :
    files'.unit.isStale.run.run q.host w = (.ok true, w) := by
  have place : files'.unit.path = files.unit.path := by
    rw [(lieAt_of_render rendered').unit, (lieAt_of_render rendered).unit]
  have read : (q.host (.read files'.unit.path) w).1 = .ok files.unit.bytes := place ▸ there
  rw [(Artifact.run_isStale_of_read q.servesFiles files'.unit w).1 _ read,
    decide_eq_true (unit_bytes_ne rendered rendered' other)]

end Service

namespace ServiceUnit

/-- A unit is rendered just if the system takes the names of its variables and their values stay on
their lines. Whatever the environment is, its lines stand between the same other lines and are read
as its variables in the order of their names, so no two environments have the same unit, and a
service whose unit is that of another environment finds it stale. -/
theorem environment_told (u : ServiceUnit) :
    ((∃ text, u.render = .ok text) ↔
      ∀ entry ∈ u.environment.toList, IsName entry.1 ∧ IsPlain entry.2) ∧
    (∃ before after, ∀ (e : Environment) text,
      ServiceUnit.render { u with environment := e } = .ok text →
        ∃ lines, text = textOfLines (before ++ lines ++ after) ∧
          lines.map assignment? = e.toList.map some ∧ (∀ line ∈ lines, IsPlain line) ∧
          e.names.Pairwise (· < ·)) ∧
    (∀ (e e' : Environment) text, ServiceUnit.render { u with environment := e } = .ok text →
      ServiceUnit.render { u with environment := e' } = .ok text → e = e') ∧
    ∀ (s : Service) (e e' : Environment) (c c' : Config) files files',
      s.render e c = .ok files → s.render e' c' = .ok files' → e ≠ e' →
        ∀ (q : Equipment) (w : World), w.disk.read files.unit.path = .ok files.unit.bytes →
          files'.unit.isStale.run.run q.host w = (.ok true, w) := by
  refine ⟨?_, ⟨u.opening, u.closing, ?_⟩, ?_, ?_⟩
  · constructor
    · rintro ⟨text, rendered⟩
      exact (render_eq_ok_iff.mp rendered).1
    · intro accepted
      exact ⟨_, render_eq_ok_iff.mpr ⟨accepted, rfl⟩⟩
  · intro e text rendered
    obtain ⟨accepted, rfl⟩ := render_eq_ok_iff.mp rendered
    refine ⟨e.toList.map variableLine, rfl, accepted.assignments, ?_, ?_⟩
    · intro line member
      obtain ⟨entry, among, rfl⟩ := List.mem_map.mp member
      exact .variableLine (accepted entry among).1 (accepted entry among).2
    · exact List.pairwise_map.mpr e.ascending
  · intro e e' text rendered rendered'
    exact environment_unique rendered rendered'
  · intro s e e' c c' files files' rendered rendered' other q w there
    exact Service.isStale_of_environment_ne rendered rendered' other q there

/-- A unit in whose values all characters occur that are escaped. -/
def quoting : ServiceUnit where
  description := "vault"
  execPath := ⟨"/srv/vault/code/current/vault"⟩
  arguments := []
  user := "www-data"
  directory := ⟨"/srv/vault/code/current"⟩
  environment := .ofList [("SAID", "\"100%\""), ("ENDS_IN", "a=b\\")]

theorem quoting_told : ∃ before lines after,
    quoting.render = .ok (textOfLines (before ++ lines ++ after)) ∧
      lines.map assignment? = [some ("ENDS_IN", "a=b\\"), some ("SAID", "\"100%\"")] := by
  obtain ⟨accepted, ⟨before, after, block⟩, -⟩ := environment_told quoting
  obtain ⟨text, rendered⟩ := accepted.mpr (by decide +kernel)
  obtain ⟨lines, rfl, told, -⟩ := block quoting.environment text rendered
  exact ⟨before, lines, after, rendered, told.trans (by decide +kernel)⟩

end ServiceUnit

end Upkeep
