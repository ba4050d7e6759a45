import Upkeep.Proofs.Layout
import Upkeep.Proofs.World.Effects

/-! The unit that is restarted and the unit whose file is written. Both come from the name of the
service: the file has `.service` behind it, and the service manager is given the name as it is, which
it takes for an option where it starts with a dash, and for a unit of another name where it has the
suffix of a unit already. -/
namespace Upkeep

/-- The types of units, as they stand behind the names of units. -/
def unitTypes : List String :=
  [".service", ".socket", ".device", ".mount", ".automount", ".swap", ".target", ".path", ".timer",
    ".slice", ".scope"]

/-- Whether a name has the type of a unit behind it. -/
def hasUnitType (name : String) : Bool :=
  unitTypes.any fun type => type.toList.isSuffixOf name.toList

/-- The unit that a name denotes for the service manager: a service, if it has no type behind it. -/
def denotedUnit (name : String) : String :=
  if hasUnitType name then name else name ++ ".service"

/-- Whether the service manager takes an argument for an option. -/
def isOption (argument : String) : Bool :=
  argument.toList.head? == some '-'

namespace Systemctl

variable {name : String}

/-- What a name denotes has the name of the file just if it has no type behind it yet. -/
theorem denotedUnit_eq_iff : denotedUnit name = name ++ ".service" ↔ hasUnitType name = false := by
  unfold denotedUnit
  cases hasUnitType name with
  | false => simp
  | true =>
    have longer : name ≠ name ++ ".service" := by
      intro same
      have lengths := congrArg String.length same
      rw [String.length_append] at lengths
      have type : ".service".length = 8 := by decide
      omega
    simp [longer]

end Systemctl

namespace Systemctl

variable {m : Systemctl} {span : Option Log.Span} {name : String} {w : World}

/-- A command is started with its arguments where the program is found, or it fails as one that could
not be started. -/
theorem run_calls (m : Systemctl) (span : Option Log.Span) (label : String) (arguments : List String)
    (w : World) :
    ((m.run span label arguments w).1.calls = w.calls ∧
        ∃ command fault, (m.run span label arguments w).2 = .error (.notStarted command fault)) ∨
      ∃ path tool, w.locate m.program = .ok (path, tool) ∧
        (m.run span label arguments w).1.calls = w.calls ++ [path.text :: arguments] := by
  let begun := (w.logEvent span (.runningCommand
    (" ".intercalate (m.program.text :: arguments)))).count (.command label)
  have same : begun.locate m.program = w.locate m.program := World.locate_congr rfl rfl rfl
  simp only [run]
  rcases begun.start_cases m.program arguments with ⟨fault, failed⟩ | ⟨path, tool, found, started⟩
  · rw [failed]
    exact .inl ⟨rfl, _, _, rfl⟩
  · rw [started]
    refine .inr ⟨path, tool, same ▸ found, ?_⟩
    simp only
    split
    · rfl
    · rfl

/-- A restart of an accepted name runs the command with that name and no other. -/
theorem restart_calls (accepted : isUnitName name = true) :
    ((m.restart span name w).1.calls = w.calls ∧
        ∃ command fault, (m.restart span name w).2 = .error (.notStarted command fault)) ∨
      ∃ path tool, w.locate m.program = .ok (path, tool) ∧
        (m.restart span name w).1.calls = w.calls ++ [[path.text, "restart", name]] := by
  have ran := m.run_calls span "restart" ["restart", name] w
  unfold restart
  rw [if_pos accepted]
  generalize m.run span "restart" ["restart", name] w = outcome at ran ⊢
  obtain ⟨w', fault | done⟩ := outcome
  · exact ran
  · rcases ran with ⟨-, command, fault, failed⟩ | started
    · cases failed
    · exact .inr started

/-- No process is started for a name that is not accepted. For one that is, the command with that name
is all that is started, an option is among its arguments only if the name starts with a dash, and what
the name denotes is the unit in the file of the service just if the name has no type of a unit behind
it. The name of the service is all that a reconciliation asks to restart. -/
theorem restarts_unit_of_service (m : Systemctl) (span : Option Log.Span) (name : String)
    (base units : Path) (w : World) :
    (isUnitName name = false → m.restart span name w = (w, .error (.invalidUnit name))) ∧
    (isUnitName name = true →
      (((m.restart span name w).1.calls = w.calls ∧
          ∃ command fault, (m.restart span name w).2 = .error (.notStarted command fault)) ∨
        ∃ path tool, w.locate m.program = .ok (path, tool) ∧
          (m.restart span name w).1.calls = w.calls ++ [[path.text, "restart", name]]) ∧
      (∀ argument ∈ ["restart", name], isOption argument = true →
        argument = name ∧ name.toList.head? = some '-') ∧
      ((Layout.ofService name base units).unitPath.fileName? = some (denotedUnit name) ↔
        hasUnitType name = false)) ∧
    ∀ (r : Reconciliation), r.service.layout = .ofService name base units →
      ∀ exchanges unit next t u,
        r.program.Runs r.service.layout t exchanges (.ask (.restart unit) next) u → unit = name := by
  refine ⟨?_, ?_, ?_⟩
  · intro refused
    simp only [restart, refused, Bool.false_eq_true, ↓reduceIte]
  · intro accepted
    refine ⟨restart_calls accepted, ?_, ?_⟩
    · intro argument member option
      rcases List.mem_cons.mp member with rfl | member
      · cases option
      · obtain rfl := List.mem_singleton.mp member
        exact ⟨rfl, beq_iff_eq.mp option⟩
    · rw [Layout.fileName?_unitPath_of_accepted accepted, Option.some.injEq, eq_comm]
      exact denotedUnit_eq_iff
  · intro r layout exchanges unit next t u runs
    have distinct : r.service.layout.unitPath ≠ r.service.layout.configPath := by
      rw [layout]
      exact Layout.unitPath_ne_configPath name base units
    obtain ⟨files, -, same, -⟩ := Reconciliation.restart_asked distinct runs
    rw [same, layout]
    rfl

end Systemctl

/-- A world with nothing but the program of the service manager. -/
def World.withSystemctl : World where
  disk := ((∅ : Disk).put ⟨true, ["bin"]⟩ .directory).put ⟨true, ["bin", "systemctl"]⟩
    (.file 0o755 .empty)
  tools := (∅ : SortedMap Tool).insert "/bin/systemctl" {}
  now := ⟨"2024-01-01T00:00:00Z", Timestamp.isValid_newYear⟩

namespace Systemctl

/-- The unit of a service with a plain name is the one that is restarted. -/
theorem restarts_plain_unit :
    isUnitName "vault" = true ∧ hasUnitType "vault" = false ∧
      (∃ path : Path, ((⟨⟨"/bin/systemctl"⟩⟩ : Systemctl).restart none "vault"
        .withSystemctl).1.calls = [[path.text, "restart", "vault"]]) ∧
      (Layout.ofService "vault" ⟨"/srv"⟩ ⟨"/etc/systemd/system"⟩).unitPath.fileName? =
        some (denotedUnit "vault") := by
  have accepted : isUnitName "vault" = true := by decide
  have untyped : hasUnitType "vault" = false := by decide
  have ended : ((⟨⟨"/bin/systemctl"⟩⟩ : Systemctl).restart none "vault" .withSystemctl).2.isOk = true := by
    decide +kernel
  obtain ⟨ran, -, named⟩ := (restarts_unit_of_service ⟨⟨"/bin/systemctl"⟩⟩ none "vault" ⟨"/srv"⟩
    ⟨"/etc/systemd/system"⟩ .withSystemctl).2.1 accepted
  refine ⟨accepted, untyped, ?_, named.mpr untyped⟩
  rcases ran with ⟨-, command, fault, failed⟩ | ⟨path, tool, -, started⟩
  · rw [failed] at ended
    cases ended
  · exact ⟨path, started⟩

/-- A name that starts with a dash is an option of the command, and one that has the type of a unit
behind it denotes another unit than the one in the file. -/
theorem misses_unit_of_service :
    ((⟨⟨"/bin/systemctl"⟩⟩ : Systemctl).restart none "--now" .withSystemctl).1.calls =
        [["/bin/systemctl", "restart", "--now"]] ∧
      isOption "--now" = true ∧
      ((⟨⟨"/bin/systemctl"⟩⟩ : Systemctl).restart none "vault.service" .withSystemctl).1.calls =
        [["/bin/systemctl", "restart", "vault.service"]] ∧
      (Layout.ofService "vault.service" ⟨"/srv"⟩ ⟨"/etc/systemd/system"⟩).unitPath.fileName? =
        some "vault.service.service" ∧
      denotedUnit "vault.service" = "vault.service" := by
  decide +kernel

end Systemctl

end Upkeep
