import Upkeep.Proofs.Disk.Walk
import Upkeep.Proofs.Reconcile.Rehearsals
import Upkeep.Run

/-! The lines of a unit file. What the environment says stays on lines of its own, since names and
values are looked through before they are written. The name of the service, its user and the
directory it lies in are written as they are, so the file has the lines that it shall have only
where none of them holds a line feed. -/
namespace Upkeep

namespace ServiceUnit

variable {c : Char} {name value line : String} {lines : List String} {e : Environment}

/-- The lines of a text are those that each of its lines falls into. -/
theorem splitOn_textOfLines (lines : List String) :
    (textOfLines lines).toList.splitOn '\n' =
      lines.flatMap (fun line => line.toList.splitOn '\n') ++ [[]] := by
  unfold textOfLines
  induction lines with
  | nil => decide
  | cons line rest ih =>
    have feed : "\n".toList = ['\n'] := by decide
    rw [List.map_cons, String.join_cons, String.toList_append, String.toList_append, feed,
      List.append_assoc, List.singleton_append, List.splitOn_append_cons_self, ih,
      List.flatMap_cons, List.append_assoc]

/-- A text has the lines that it was made of just if none of them holds a line feed. -/
theorem splitOn_textOfLines_iff :
    (textOfLines lines).toList.splitOn '\n' = lines.map String.toList ++ [[]] ↔
      ∀ line ∈ lines, '\n' ∉ line.toList := by
  constructor
  · intro same line member
    have piece : line.toList ∈ (textOfLines lines).toList.splitOn '\n' := by
      rw [same]
      exact List.mem_append_left [[]] (List.mem_map_of_mem member)
    exact Disk.not_mem_of_mem_splitOn piece
  · intro whole
    rw [splitOn_textOfLines]
    congr 1
    induction lines with
    | nil => rfl
    | cons line rest ih =>
      obtain ⟨first, later⟩ := List.forall_mem_cons.mp whole
      rw [List.flatMap_cons, List.map_cons, List.splitOn_eq_singleton first, ih later]
      rfl

/-- What becomes of a character of a value that is written between double quotes. -/
def escaped (c : Char) : List Char :=
  if c = '\\' then ['\\', '\\']
  else if c = '"' then ['\\', '"']
  else if c = '%' then ['%', '%']
  else [c]

/-- What is put in place of one character is left alone when the next ones are replaced, so a value is
escaped character by character. -/
theorem toList_escapedValue (value : String) :
    (escapedValue value).toList = value.toList.flatMap escaped := by
  unfold escapedValue Text.replaced
  rw [String.toList_ofList, List.flatMap_assoc, List.flatMap_assoc]
  congr 1
  funext c
  by_cases backslash : c = '\\'
  · subst backslash
    decide
  · by_cases quote : c = '"'
    · subst quote
      decide
    · by_cases percent : c = '%'
      · subst percent
        decide
      · simp [escaped, backslash, quote, percent]

/-- The line that sets a variable, where its name and its value are accepted. -/
def variableLine (entry : String × String) : String :=
  "Environment=\"" ++ entry.1 ++ "=" ++ escapedValue entry.2 ++ "\""

theorem toList_variableLine (entry : String × String) : (variableLine entry).toList =
    "Environment=\"".toList ++ entry.1.toList ++ "=".toList ++ (escapedValue entry.2).toList ++
      "\"".toList := by
  delta variableLine
  simp only [String.toList_append]

theorem environmentLine_eq_ok : environmentLine name value = .ok line ↔
    isVariableName name = true ∧ hasControl value = false ∧ line = variableLine (name, value) := by
  unfold environmentLine
  cases isVariableName name with
  | false => simp
  | true =>
    cases hasControl value with
    | true => simp
    | false =>
      simp only [Bool.not_true, Bool.false_eq_true, ↓reduceIte, Except.ok.injEq, true_and]
      exact eq_comm

/-- Each variable has a line of its own, and all of them are accepted. -/
theorem environmentLines_eq_ok (written : environmentLines e = .ok lines) :
    lines = e.toList.map variableLine ∧
      ∀ entry ∈ e.toList, isVariableName entry.1 = true ∧ hasControl entry.2 = false := by
  change e.toList.mapM (fun entry => environmentLine entry.1 entry.2) = .ok lines at written
  generalize e.toList = entries at written ⊢
  induction entries generalizing lines with
  | nil =>
    cases written
    exact ⟨rfl, List.forall_mem_nil _⟩
  | cons entry rest ih =>
    rw [List.mapM_cons] at written
    cases first : environmentLine entry.1 entry.2 with
    | error fault =>
      rw [first] at written
      cases written
    | ok line =>
      rw [first] at written
      cases later : rest.mapM fun entry => environmentLine entry.1 entry.2 with
      | error fault =>
        simp only [later] at written
        cases written
      | ok more =>
        simp only [later] at written
        cases written
        obtain ⟨same, accepted⟩ := ih later
        obtain ⟨named, plain, rfl⟩ := environmentLine_eq_ok.mp first
        exact ⟨by rw [same, List.map_cons], List.forall_mem_cons.mpr ⟨⟨named, plain⟩, accepted⟩⟩

theorem not_mem_of_isVariableName (named : isVariableName name = true) : '\n' ∉ name.toList := by
  unfold isVariableName at named
  split at named
  · cases named
  · rename_i first rest chars
    rw [chars]
    rw [Bool.and_eq_true, List.all_eq_true] at named
    rintro member
    rcases List.mem_cons.mp member with rfl | member
    · cases named.1
    · cases named.2 _ member

theorem not_mem_escapedValue (plain : hasControl value = false) :
    '\n' ∉ (escapedValue value).toList := by
  rw [toList_escapedValue]
  intro member
  obtain ⟨c, among, written⟩ := List.mem_flatMap.mp member
  have feed : c = '\n' := by
    unfold escaped at written
    split at written
    · simp at written
    · split at written
      · simp at written
      · split at written
        · simp at written
        · exact (List.mem_singleton.mp written).symm
  subst feed
  have control : hasControl value = true := List.any_eq_true.mpr ⟨'\n', among, by decide⟩
  exact absurd control (by simp [plain])

theorem lines_of_render {u : ServiceUnit} {text : String} (rendered : u.render = .ok text) :
    ∃ lines, environmentLines u.environment = .ok lines ∧
      text = textOfLines (u.opening ++ lines ++ u.closing) := by
  unfold render at rendered
  cases written : environmentLines u.environment with
  | error fault =>
    rw [written] at rendered
    cases rendered
  | ok lines =>
    rw [written] at rendered
    cases rendered
    exact ⟨lines, rfl, rfl⟩

/-- The line of a variable that is accepted holds no line feed. -/
theorem not_mem_variableLine {entry : String × String} (named : isVariableName entry.1 = true)
    (plain : hasControl entry.2 = false) : '\n' ∉ (variableLine entry).toList := by
  have start : '\n' ∉ "Environment=\"".toList := by decide
  have equals : '\n' ∉ "=".toList := by decide
  have stop : '\n' ∉ "\"".toList := by decide
  simp only [toList_variableLine, List.mem_append, not_or]
  exact ⟨⟨⟨⟨start, not_mem_of_isVariableName named⟩, equals⟩, not_mem_escapedValue plain⟩, stop⟩

end ServiceUnit

namespace Service

variable {s : Service} {name user pollEvent : String} {base units : Path}
  {environment : Environment} {config : Config} {files : ServiceFiles}

/-- The lines that the unit file of a service shall have. -/
def unitLines (s : Service) (environment : Environment) : List String :=
  [managedHeader,
    "[Unit]",
    "Description=" ++ s.layout.serviceName,
    "After=network.target",
    "",
    "[Service]",
    "Type=simple",
    "User=" ++ s.user,
    "WorkingDirectory=" ++ s.layout.codeDirectory.text] ++
  environment.toList.map ServiceUnit.variableLine ++
  ["ExecStart=" ++ " ".intercalate [s.layout.execPath.text, "--config", s.layout.configPath.text],
    "Restart=on-failure",
    "",
    "[Install]",
    "WantedBy=multi-user.target"]

/-- There are fourteen of them, and one more for each variable. -/
theorem length_unitLines (s : Service) (environment : Environment) :
    (s.unitLines environment).length = 14 + environment.size := by
  have size : environment.toList.length = environment.size := rfl
  simp only [unitLines, List.length_append, List.length_map, List.length_cons, List.length_nil, size]
  omega

/-- The text of the unit is made of its lines, and all variables in it have been accepted. -/
theorem content_of_render (rendered : s.render environment config = .ok files) :
    files.unit.content = ServiceUnit.textOfLines (s.unitLines environment) ∧
      ∀ entry ∈ environment.toList,
        ServiceUnit.isVariableName entry.1 = true ∧ ServiceUnit.hasControl entry.2 = false := by
  obtain ⟨text, settings, written, -, rfl⟩ := eq_of_render rendered
  obtain ⟨lines, assignments, rfl⟩ := ServiceUnit.lines_of_render written
  obtain ⟨rfl, accepted⟩ := ServiceUnit.environmentLines_eq_ok assignments
  have same : (s.unit environment).opening ++
      (s.unit environment).environment.toList.map ServiceUnit.variableLine ++
      (s.unit environment).closing = s.unitLines environment := by
    simp only [unitLines, ServiceUnit.opening, ServiceUnit.closing, ServiceUnit.execStart, unit]
  dsimp only
  rw [same]
  exact ⟨rfl, accepted⟩

/-- The name of the service, its user and its directory decide whether a line holds a line feed. -/
theorem unitLines_whole_iff (accepted : ∀ entry ∈ environment.toList,
      ServiceUnit.isVariableName entry.1 = true ∧ ServiceUnit.hasControl entry.2 = false) :
    (∀ line ∈ unitLines ⟨.ofService name base units, user, pollEvent⟩ environment,
        '\n' ∉ line.toList) ↔
      '\n' ∉ name.toList ∧ '\n' ∉ user.toList ∧
        ('\n' ∈ base.text.toList → (Path.mk name).isAbsolute = true) := by
  have assignments : ∀ line ∈ environment.toList.map ServiceUnit.variableLine, '\n' ∉ line.toList := by
    intro line member
    obtain ⟨entry, among, rfl⟩ := List.mem_map.mp member
    exact ServiceUnit.not_mem_variableLine (accepted entry among).1 (accepted entry among).2
  have constant : ∀ line ∈ [managedHeader, "[Unit]", "After=network.target", "", "[Service]",
      "Type=simple", "Restart=on-failure", "[Install]", "WantedBy=multi-user.target"],
      '\n' ∉ line.toList := by
    decide +kernel
  have labelled {label value : String} (plain : '\n' ∉ label.toList) :
      '\n' ∉ (label ++ value).toList ↔ '\n' ∉ value.toList := by
    rw [String.toList_append, List.mem_append, or_iff_right plain]
  have command (exec settings : String) : '\n' ∉ (" ".intercalate [exec, "--config", settings]).toList ↔
      '\n' ∉ exec.toList ∧ '\n' ∉ settings.toList := by
    have option : '\n' ∉ " ".toList ∧ '\n' ∉ "--config".toList := by decide
    simp only [String.toList_intercalate, List.map_cons, List.map_nil, List.intercalate_cons_cons,
      List.intercalate_singleton, List.mem_append, option, not_or, not_false_eq_true, true_and,
      and_true]
  have inTree {right : Path} {last : String} (plain : '\n' ∉ last.toList)
      (relative : (Path.mk last).isAbsolute = false) :
      '\n' ∈ (right.joinText last).text.toList ↔ '\n' ∈ right.text.toList := by
    rw [Path.mem_joinText (by decide), or_iff_right plain, and_iff_left relative]
  have tree : '\n' ∈ (base.joinText name).text.toList ↔
      '\n' ∈ name.toList ∨ '\n' ∈ base.text.toList ∧ (Path.mk name).isAbsolute = false :=
    Path.mem_joinText (by decide)
  have directory : '\n' ∈ (Layout.ofService name base units).codeDirectory.text.toList ↔
      '\n' ∈ (base.joinText name).text.toList := by
    simp only [Layout.ofService]
    rw [inTree (by decide) (by decide), inTree (by decide) (by decide)]
  have settings : '\n' ∈ (Layout.ofService name base units).configPath.text.toList ↔
      '\n' ∈ (base.joinText name).text.toList := by
    simp only [Layout.ofService]
    rw [inTree (by decide) (by decide), inTree (by decide) (by decide)]
  have program : '\n' ∈ (Layout.ofService name base units).execPath.text.toList ↔
      '\n' ∈ name.toList ∨ '\n' ∈ (Layout.ofService name base units).codeDirectory.text.toList ∧
        (Path.mk name).isAbsolute = false :=
    Path.mem_joinText (by decide)
  have description : (Layout.ofService name base units).serviceName = name := rfl
  simp only [List.forall_mem_cons] at constant
  simp only [unitLines, List.forall_mem_append, List.forall_mem_cons, constant, eq_true assignments,
    List.not_mem_nil, false_implies, implies_true, not_false_eq_true, true_and, and_true]
  rw [labelled (by decide), labelled (by decide), labelled (by decide), labelled (by decide), command,
    description, program, directory, settings, tree]
  cases (Path.mk name).isAbsolute <;> grind

/-- The unit file of a service consists of fourteen lines and one for each variable, whatever the
environment says, just if no line feed is in the name of the service, in its user or, unless the name
starts at the root, in the directory of the services' trees. -/
theorem lines_of_unit
    (rendered : Service.render ⟨.ofService name base units, user, pollEvent⟩ environment config =
      .ok files) :
    (unitLines ⟨.ofService name base units, user, pollEvent⟩ environment).length =
        14 + environment.size ∧
      (files.unit.content.toList.splitOn '\n' =
          (unitLines ⟨.ofService name base units, user, pollEvent⟩ environment).map String.toList ++
            [[]] ↔
        '\n' ∉ name.toList ∧ '\n' ∉ user.toList ∧
          ('\n' ∈ base.text.toList → (Path.mk name).isAbsolute = true)) := by
  obtain ⟨content, accepted⟩ := content_of_render rendered
  refine ⟨length_unitLines _ environment, ?_⟩
  rw [content, ServiceUnit.splitOn_textOfLines_iff]
  exact unitLines_whole_iff accepted

open Reconciliation in
/-- The unit of an installation consists of fifteen lines, for it has one variable. -/
theorem lines_of_installation : ∃ files, installation.rendering = .ok files ∧
    (installation.service.unitLines installation.environment).length = 15 ∧
    files.unit.content.toList.splitOn '\n' =
      (installation.service.unitLines installation.environment).map String.toList ++ [[]] := by
  obtain ⟨files, rendered⟩ := installation_rendering
  have vault : render ⟨.ofService "vault" ⟨"/srv"⟩ ⟨"/etc/systemd/system"⟩, "www-data", "update-status"⟩
      installation.environment installation.config = .ok files := rendered
  obtain ⟨length, whole⟩ := lines_of_unit vault
  have plain : '\n' ∉ "vault".toList ∧ '\n' ∉ "www-data".toList ∧ '\n' ∉ "/srv".toList := by decide
  refine ⟨files, rendered, length, whole.mpr ⟨plain.1, plain.2.1, fun feed => ?_⟩⟩
  exact absurd feed plain.2.2

theorem mem_unitLines_user (s : Service) (environment : Environment) :
    "User=" ++ s.user ∈ s.unitLines environment := by
  simp [unitLines]

end Service

/-- A setup whose user is followed by a directive on a line of its own. -/
def Setup.twoLineUser : Setup :=
  .ofEnvironment (.ofList [("SERVICE_USER", "www-data\nExecStartPre=/bin/touch marker")])

open Setup in
/-- The user of a service adds a directive to its unit. -/
theorem Service.user_adds_directive :
    ∃ files, twoLineUser.service.render ∅ ∅ = .ok files ∧
      "ExecStartPre=/bin/touch marker".toList ∈ files.unit.content.toList.splitOn '\n' ∧
      files.unit.content.toList.splitOn '\n' ≠
        (twoLineUser.service.unitLines ∅).map String.toList ++ [[]] := by
  have rendered : (twoLineUser.service.render ∅ ∅).toOption.isSome = true := by
    decide +kernel
  have user : twoLineUser.service.user = "www-data\nExecStartPre=/bin/touch marker" := by
    decide +kernel
  have line := mem_unitLines_user twoLineUser.service ∅
  rw [user] at line
  cases render : twoLineUser.service.render ∅ ∅ with
  | error fault =>
    rw [render] at rendered
    cases rendered
  | ok files =>
    obtain ⟨content, -⟩ := content_of_render render
    refine ⟨files, rfl, ?_, ?_⟩
    · rw [content, ServiceUnit.splitOn_textOfLines]
      exact List.mem_append_left [[]] (List.mem_flatMap.mpr ⟨_, line, by decide⟩)
    · rw [content]
      intro same
      exact absurd (ServiceUnit.splitOn_textOfLines_iff.mp same _ line) (by decide)

end Upkeep
