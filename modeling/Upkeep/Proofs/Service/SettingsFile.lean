import Upkeep.Load
import Upkeep.Proofs.Disk.Contents
import Upkeep.Proofs.Result
import Upkeep.Proofs.World.Staleness
import Upkeep.Proofs.Yaml.ReadBack

/-! The settings file read back. What is written for a configuration, a line of comment and then a mapping, is
read as that configuration, so that no two configurations have the same file. The values have to be some that
a document can give, which those of a loaded configuration are, and their tags some that stand in a document
as they are written. -/
namespace Upkeep

namespace SortedMap

variable {α : Type} {m : SortedMap α} {pairs : List (String × α)} {name : String} {value : α}

/-- What holds of all values of a map and of all values that are set holds of all values afterwards. -/
theorem forall_insertAll {P : α → Prop} (held : ∀ name value, m.get? name = some value → P value)
    (set : ∀ pair ∈ pairs, P pair.2) (found : (m.insertAll pairs).get? name = some value) : P value := by
  rw [get?_insertAll, Option.or_eq_some_iff] at found
  obtain new | ⟨-, old⟩ := found
  · exact set _ (List.mem_reverse.mp (Assoc.mem_of_find?_eq_some new))
  · exact held name value old

end SortedMap

namespace Yaml.Value

variable {depth : Nat} {items : List Value} {entries : List (Value × Value)}

theorem Legible.of_mapping (legible : Legible (depth + 1) (.mapping entries)) :
    ∀ entry ∈ entries, Legible depth entry.2 := by
  cases legible with
  | mapping _ values _ => exact values

end Yaml.Value

namespace Config

open Yaml

variable {c operator : Config} {disk : Disk} {path : Path} {text : String}

/-- Every value of the configuration is one that a document can give below its top. -/
def Legible (c : Config) : Prop :=
  ∀ name value, c.get? name = some value → value.Legible (Value.depthLimit - 1)

/-- Every tag in the configuration is read back from what is written for it. -/
def TagsReadBack (c : Config) : Prop :=
  ∀ name value, c.get? name = some value → value.tagsReadBack = true

/-! ### Configurations that are loaded -/

theorem exists_entry {entries : List (Value × Value)} {pairs : List (String × Value)}
    (named : entries.mapM (fun entry => (nameOf? entry.1).map (·, entry.2)) = some pairs) :
    ∀ pair ∈ pairs, ∃ entry ∈ entries, entry.2 = pair.2 := by
  induction entries generalizing pairs with
  | nil =>
    obtain rfl : [] = pairs := by simpa using named
    exact List.forall_mem_nil _
  | cons entry entries ih =>
    rw [List.mapM_cons] at named
    obtain ⟨pair, first, named⟩ := Option.bind_eq_some_iff.mp named
    obtain ⟨rest, others, named⟩ := Option.bind_eq_some_iff.mp named
    obtain rfl := Option.some.inj named
    obtain ⟨name, -, rfl⟩ := Option.map_eq_some_iff.mp first
    refine List.forall_mem_cons.mpr ⟨⟨entry, List.mem_cons_self, rfl⟩, fun pair inside => ?_⟩
    obtain ⟨entry, inside, same⟩ := ih others pair inside
    exact ⟨entry, List.mem_cons_of_mem _ inside, same⟩

theorem legible_of_ofYaml {value : Value} (legible : value.Legible Value.depthLimit)
    (accepted : ofYaml value = .ok c) : c.Legible := by
  intro name found held
  unfold ofYaml at accepted
  split at accepted
  · obtain rfl := Except.ok.inj accepted
    cases held
  · split at accepted
    · rename_i named
      obtain rfl := Except.ok.inj accepted
      have empty (name : String) (value : Value) (held : (∅ : Config).get? name = some value) :
          value.Legible (Value.depthLimit - 1) := nomatch held
      refine SortedMap.forall_insertAll empty (fun pair inside => ?_) held
      obtain ⟨entry, among, same⟩ := exists_entry named pair inside
      exact same ▸ Value.Legible.of_mapping legible entry among
    · cases accepted
  · cases accepted

theorem load_eq_ok : Config.load disk path = .ok c ↔
    ∃ text value, disk.readText path = .ok text ∧ Value.read text = .ok value ∧ ofYaml value = .ok c := by
  unfold Config.load loadText
  simp only [Result.bind_eq_ok, Result.mapError_eq_ok, exists_and_left]
  refine exists_congr fun text => and_congr_right fun _ => exists_congr fun value => and_congr_right fun _ => ?_
  cases ofYaml value with
  | ok found => simp [pure, Except.pure]
  | error refusal => cases refusal <;> simp [throw, throwThe, MonadExceptOf.throw]

/-- What a loaded configuration holds is legible. -/
theorem legible_of_load (loaded : Config.load disk path = .ok c) : c.Legible := by
  obtain ⟨text, value, -, read, accepted⟩ := load_eq_ok.mp loaded
  exact legible_of_ofYaml (Value.legible_of_read read) accepted

/-! ### What is decided -/

/-- What is decided is a text or a list of texts. -/
theorem decided_cases {database : Database} {environment : Environment} {pair : String × Value}
    (inside : pair ∈ decided database environment) :
    (∃ s, pair.2 = .text s) ∨ ∃ uris : List String, pair.2 = .sequence (uris.map .text) := by
  simp only [decided, List.mem_append, List.mem_singleton] at inside
  rcases inside with (rfl | standbys) | staging
  · exact .inl ⟨_, rfl⟩
  · split at standbys
    · cases standbys
    · rw [List.mem_singleton.mp standbys]
      exact .inr ⟨_, rfl⟩
  · split at staging
    · simp only [List.mem_cons, List.not_mem_nil, or_false] at staging
      rcases staging with rfl | rfl <;> exact .inl ⟨_, rfl⟩
    · cases staging

/-- What holds of all values of an operator, of texts and of lists of texts holds of all values that are
desired. -/
theorem forall_desired {P : Value → Prop} (held : ∀ name value, operator.get? name = some value → P value)
    (text : ∀ s, P (.text s)) (texts : ∀ uris : List String, P (.sequence (uris.map .text)))
    (database : Database) (environment : Environment) :
    ∀ name value, (operator.desired database environment).get? name = some value → P value := by
  intro name value found
  refine SortedMap.forall_insertAll held (fun pair inside => ?_) found
  obtain ⟨s, same⟩ | ⟨uris, same⟩ := decided_cases inside
  · exact same ▸ text s
  · exact same ▸ texts uris

theorem legible_desired (legible : operator.Legible) (database : Database) (environment : Environment) :
    (operator.desired database environment).Legible := by
  refine forall_desired legible .text (fun uris => .sequence fun item among => ?_) database environment
  obtain ⟨uri, -, rfl⟩ := List.mem_map.mp among
  exact .text uri

theorem tagsReadBack_desired (tags : operator.TagsReadBack) (database : Database) (environment : Environment) :
    (operator.desired database environment).TagsReadBack := by
  refine forall_desired tags (fun _ => rfl) (fun uris => ?_) database environment
  refine Value.itemsReadBack_iff.mpr fun item among => ?_
  obtain ⟨uri, -, rfl⟩ := List.mem_map.mp among
  rfl

/-! ### Configurations as documents -/

theorem toYaml_eq (c : Config) : c.toYaml = .mapping (c.toList.map fun pair => (.text pair.1, pair.2)) :=
  rfl

theorem ofYaml_toYaml (c : Config) : ofYaml c.toYaml = .ok c := by
  have named : (c.toList.map fun pair => (Value.text pair.1, pair.2)).mapM
      (fun entry => (nameOf? entry.1).map (·, entry.2)) = some c.toList := by
    rw [List.mapM_map]
    exact List.mapM_pure.trans (congrArg some (List.map_id _))
  simp only [ofYaml, toYaml_eq, named, SortedMap.ofList_toList]

/-- The names of a configuration ascend, so they make different keys. -/
theorem legible_toYaml (legible : c.Legible) : c.toYaml.Legible Value.depthLimit := by
  refine Value.Legible.mapping (fun entry inside => ?_) (fun entry inside => ?_) (List.pairwise_map.mpr ?_)
  · obtain ⟨⟨name, value⟩, -, rfl⟩ := List.mem_map.mp inside
    exact .text name
  · obtain ⟨⟨name, value⟩, among, rfl⟩ := List.mem_map.mp inside
    exact legible name value (SortedMap.mem_toList_iff.mp among)
  · refine c.ascending.imp fun {pair later} below => ?_
    exact beq_eq_false_iff_ne.mpr (String.ne_of_lt below)

theorem entriesReadBack_toYaml (tags : c.TagsReadBack) :
    Value.entriesReadBack (c.toList.map fun pair => (.text pair.1, pair.2)) = true := by
  rw [Value.entriesReadBack_iff]
  intro entry inside
  obtain ⟨⟨name, value⟩, among, rfl⟩ := List.mem_map.mp inside
  exact ⟨rfl, tags name value (SortedMap.mem_toList_iff.mp among)⟩

theorem settings_eq_ok : c.settings = .ok text ↔
    ∃ yaml, c.toYaml.print? = some yaml ∧ text = managedHeader ++ "\n" ++ yaml := by
  unfold settings
  cases c.toYaml.print? with
  | none => simp
  | some yaml => simp [eq_comm]

/-! ### The settings file -/

/-- What the first line says behind its mark. -/
def headerComment : List Char :=
  managedHeader.toList.drop 1

theorem commentLine_header (yaml : String) :
    managedHeader ++ "\n" ++ yaml = String.ofList (Scanner.commentLine headerComment) ++ yaml := by
  have line : managedHeader ++ "\n" = String.ofList (Scanner.commentLine headerComment) := by decide +kernel
  rw [line]

theorem onLine_headerComment : Spot.OnLine headerComment := by
  have none : headerComment.all (!isBreak ·) = true := by decide +kernel
  simpa [Spot.OnLine] using none

/-- What is written for a configuration is read as its mapping. -/
theorem read_settings (legible : c.Legible) (tags : c.TagsReadBack) (rendered : c.settings = .ok text) :
    Value.read text = .ok c.toYaml := by
  obtain ⟨yaml, written, rfl⟩ := settings_eq_ok.mp rendered
  have allowed : Printer.Allowed headerComment := List.all_eq_true.mp (by decide +kernel)
  rw [commentLine_header]
  exact Value.read_mapping onLine_headerComment allowed (legible_toYaml legible) (entriesReadBack_toYaml tags) written

/-- A file that holds what is written for a configuration is loaded as the configuration. -/
theorem load_settings (legible : c.Legible) (tags : c.TagsReadBack) (rendered : c.settings = .ok text)
    (there : disk.read path = .ok text.toUTF8) : Config.load disk path = .ok c := by
  have readable : disk.readText path = .ok text := by
    rw [Disk.readText, there]
    simp only [bind, Except.bind, Text.fromUTF8?_eq_some.mpr rfl]
    rfl
  exact load_eq_ok.mpr ⟨text, c.toYaml, readable, read_settings legible tags rendered, ofYaml_toYaml c⟩

/-- A configuration that is built for an operator's file with tags that read back. -/
inductive Built : Config → Prop
  | of_load {disk : Disk} {path : Path} {operator : Config} (database : Database) (environment : Environment) :
    Config.load disk path = .ok operator → operator.TagsReadBack → Built (operator.desired database environment)

namespace Built

variable {c' : Config} {s : Service} {e e' : Environment} {files files' : ServiceFiles}

theorem legible (built : c.Built) : c.Legible := by
  obtain ⟨database, environment, loaded, -⟩ := built
  exact legible_desired (legible_of_load loaded) database environment

theorem tagsReadBack (built : c.Built) : c.TagsReadBack := by
  obtain ⟨database, environment, -, tags⟩ := built
  exact tagsReadBack_desired tags database environment

/-- Equal settings tell of equal configurations. -/
theorem eq_of_settings (built : c.Built) (built' : c'.Built) (rendered : c.settings = .ok text)
    (rendered' : c'.settings = .ok text) : c = c' := by
  have read := read_settings built.legible built.tagsReadBack rendered
  rw [read_settings built'.legible built'.tagsReadBack rendered'] at read
  have accepted := ofYaml_toYaml c'
  rw [Except.ok.inj read, ofYaml_toYaml c] at accepted
  exact Except.ok.inj accepted

/-- A settings file that was rendered for another configuration is not the one that shall be there. -/
theorem bytes_ne (built : c.Built) (built' : c'.Built) (other : c ≠ c') (rendered : s.render e c = .ok files)
    (rendered' : s.render e' c' = .ok files') : files.settings.bytes ≠ files'.settings.bytes := by
  obtain ⟨unit, text, -, settings, rfl⟩ := Service.eq_of_render rendered
  obtain ⟨unit', text', -, settings', rfl⟩ := Service.eq_of_render rendered'
  intro same
  obtain rfl : text = text' := String.toByteArray_inj.mp same
  exact other (built.eq_of_settings built' settings settings')

/-- A settings file that was rendered for another configuration is found stale. -/
theorem isStale_of_ne (built : c.Built) (built' : c'.Built) (other : c ≠ c') (rendered : s.render e c = .ok files)
    (rendered' : s.render e' c' = .ok files') (q : Equipment) {w : World}
    (there : w.disk.read files.settings.path = .ok files.settings.bytes) :
    files'.settings.isStale.run.run q.host w = (.ok true, w) := by
  have place : files'.settings.path = files.settings.path := by
    rw [(Service.lieAt_of_render rendered').settings, (Service.lieAt_of_render rendered).settings]
  have read : (q.host (.read files'.settings.path) w).1 = .ok files.settings.bytes := place ▸ there
  rw [(Artifact.run_isStale_of_read q.servesFiles files'.settings w).1 _ read,
    decide_eq_true (built.bytes_ne built' other rendered rendered')]

end Built

/-- The settings file of a configuration that is built starts with one line of comment, and the rest of it is the
mapping. A file with that text is loaded as the very configuration, whatever else is on the disk; so is the one
of a configuration without settings. No other configuration has the same text, so a service whose settings file
was written for another one finds it stale. A configuration counts as built only if each tag in it is one that
the short form of a tag can hold. This is an assumption on the YAML library, not on the file as it is put
together here: that the library's reader takes back what its printer writes fails for tags alone, since the printer
writes all of them in short form. -/
theorem settings_read_back (built : c.Built) (rendered : c.settings = .ok text) :
    (∃ comment yaml, comment.toList.head? = some '#' ∧ '\n' ∉ comment.toList ∧ c.toYaml.print? = some yaml ∧
      text = comment ++ "\n" ++ yaml) ∧
    (∀ disk path, disk.read path = .ok text.toUTF8 → Config.load disk path = .ok c) ∧
    (∀ c' : Config, c'.Built → c'.settings = .ok text → c' = c) ∧
    (∀ (s : Service) (e e' : Environment) (c' : Config) files files', c'.Built → c ≠ c' →
      s.render e c = .ok files → s.render e' c' = .ok files' →
        ∀ (q : Equipment) (w : World), w.disk.read files.settings.path = .ok files.settings.bytes →
          files'.settings.isStale.run.run q.host w = (.ok true, w)) ∧
    ∃ empty, settings ∅ = .ok empty ∧
      ∀ disk path, disk.read path = .ok empty.toUTF8 → Config.load disk path = .ok ∅ := by
  obtain ⟨yaml, written, form⟩ := settings_eq_ok.mp rendered
  refine ⟨⟨managedHeader, yaml, rfl, by decide +kernel, written, form⟩, ?_, ?_, ?_, ?_⟩
  · exact fun disk path there => load_settings built.legible built.tagsReadBack rendered there
  · exact fun c' built' rendered' => built'.eq_of_settings built rendered' rendered
  · exact fun s e e' c' files files' built' other rendered rendered' q w there =>
      built.isStale_of_ne built' other rendered rendered' q there
  · have nothing (name : String) (value : Value) (found : (∅ : Config).get? name = some value) : False :=
      nomatch found
    exact ⟨_, rfl, fun disk path there =>
      load_settings (fun name value found => (nothing name value found).elim)
        (fun name value found => (nothing name value found).elim) rfl there⟩

/-- Where an operator's file lies. -/
def operatorFile : Path := ⟨"config.yaml"⟩

/-- The disk with an operator's file and no other. -/
def holding (text : String) : Disk :=
  (∅ : Disk).put ⟨false, ["config.yaml"]⟩ (.file 0o600 text.toUTF8)

/-- A database without standbys. -/
def vault : Database where
  primary := "postgres://db/vault"
  standbys := []

/-- What an operator wrote with a tag, nested collections and a text that looks like a number. -/
def nested : String :=
  "log: !verbose \x7bon: true, to: [stdout, 'no']\x7d\nratio: 0.50\nlimit: '12'\n"

/-- The settings file for it. -/
def nestedSettings : String :=
  managedHeader ++ "\nlimit: '12'\nlog: !verbose\n  on: true\n  to:\n  - stdout\n  - no\n" ++
    "maindb: postgres://db/vault\nratio: 0.5\n"

theorem nested_settings_read_back : ∃ c : Config, c.Built ∧ c.settings = .ok nestedSettings ∧
    ∀ disk path, disk.read path = .ok nestedSettings.toUTF8 → Config.load disk path = .ok c := by
  have outcome : ((Config.load (holding nested) operatorFile).toOption.bind fun operator =>
      if operator.toList.all fun pair => pair.2.tagsReadBack then (operator.desired vault ∅).settings.toOption
      else none) = some nestedSettings := by decide +kernel
  obtain ⟨operator, loaded, rendered⟩ := Option.bind_eq_some_iff.mp outcome
  split at rendered
  · rename_i tags
    have built : Built (operator.desired vault ∅) := by
      refine .of_load _ _ (Result.toOption_eq_some.mp loaded) fun name value found => ?_
      exact List.all_eq_true.mp tags (name, value) (SortedMap.mem_toList_iff.mpr found)
    have rendered := Result.toOption_eq_some.mp rendered
    exact ⟨_, built, rendered, (settings_read_back built rendered).2.1⟩
  · cases rendered

/-- The settings file for a tag with a comma, which stands in verbatim form before and in short form after. -/
def commaSettings : String :=
  managedHeader ++ "\nk: !a,b x\nmaindb: postgres://db/vault\n"

/-- A comma in a tag ends the short form, so the settings file that is written is no document. -/
theorem settings_unreadable_after_comma :
    (∃ operator, Config.load (holding "k: !<!a,b> x\n") operatorFile = .ok operator ∧ vault.checked = .ok vault ∧
      (operator.desired vault ∅).settings = .ok commaSettings) ∧
    (holding commaSettings).read operatorFile = .ok commaSettings.toUTF8 ∧
    Config.load (holding commaSettings) operatorFile = .error (.unparsable operatorFile) := by
  have outcome : ((Config.load (holding "k: !<!a,b> x\n") operatorFile).toOption.bind fun operator =>
      (operator.desired vault ∅).settings.toOption) = some commaSettings := by decide +kernel
  obtain ⟨operator, loaded, rendered⟩ := Option.bind_eq_some_iff.mp outcome
  refine ⟨⟨operator, Result.toOption_eq_some.mp loaded, by decide +kernel, Result.toOption_eq_some.mp rendered⟩,
    rfl, ?_⟩
  have refused : (match Config.load (holding commaSettings) operatorFile with
      | .ok _ => none
      | .error fault => some fault) = some (.unparsable operatorFile) := by decide +kernel
  split at refused
  · cases refused
  · rename_i same
    rw [same, Option.some.inj refused]

end Config

end Upkeep
