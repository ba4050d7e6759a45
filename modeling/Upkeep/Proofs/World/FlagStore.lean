import Upkeep.Proofs.Flags.Stored
import Upkeep.Proofs.Reconcile.FlagHistory
import Upkeep.Proofs.Reconcile.Rehearsals
import Upkeep.Proofs.World.Genuine

/-! The flags that outlive a run. Over all histories of calls the service's own flag goes one way,
and no flag but those of the reconciler is touched. Handling an event adds no other flag to the
file: the flags that are given with it, and the one for the database, decide whether the reconciler
is reached and nothing else. -/
namespace Upkeep

/-- A change of the disk spares all flags but those of the reconciler. -/
theorem Change.spares {s : Service} {files : ServiceFiles} {kept : FlagFile} {d d' : Disk}
    {name : String} (change : Change s files kept d d') (other : name ∉ Flags.own)
    (apartUnit : kept.path.place ≠ files.unit.path.place)
    (apartSettings : kept.path.place ≠ files.settings.path.place) : kept.Spares name d d' := by
  have proper := Disk.place_proper kept.path
  cases change with
  | same => exact .refl kept name d
  | unit replacing => exact .of_same_file replacing.passable (replacing.file?_other proper apartUnit)
  | settings replacing =>
    exact .of_same_file replacing.passable (replacing.file?_other proper apartSettings)
  | flag touch loaded replacing =>
    apply FlagFile.Spares.of_replacing loaded replacing
    rintro rfl
    exact other touch.own

/-- A text that starts with a comment is no JSON. -/
theorem Json.Value.read?_of_comment {source : String} {rest : List Char}
    (starts : source.toList = '#' :: rest) : read? source = none := by
  unfold read?
  simp only [starts]
  rfl

/-- The text of the metrics starts with a comment. -/
theorem Metrics.toList_text (m : Metrics) : ∃ rest, m.text.toList = '#' :: rest := by
  obtain ⟨help, lines, begins⟩ : ∃ help lines, m.families.flatMap Family.lines =
      ("# HELP " ++ "service_reconciler_artifacts_written_total" ++ " " ++ help) :: lines :=
    ⟨_, _, rfl⟩
  have mark : "# HELP ".toList = '#' :: [' ', 'H', 'E', 'L', 'P', ' '] := by decide
  rw [text, String.toList_join, begins]
  simp only [List.map_cons, List.flatMap_cons, String.toList_append, mark, List.cons_append]
  exact ⟨_, rfl⟩

/-- Metrics in the place of the flags hold no flag. -/
theorem FlagFile.stored?_of_metrics {f : FlagFile} {d : Disk} {m : Metrics} {mode : Nat}
    {name : String} (written : d.file? f.path.place = some (mode, m.text.toUTF8)) :
    f.stored? d name = none := by
  obtain ⟨rest, starts⟩ := m.toList_text
  have unread : Flags.Document.read? m.text = none := by
    rw [Flags.Document.read?, Json.Value.read?_of_comment starts]
    rfl
  rw [stored?, document?_of_text written, unread]
  rfl

namespace Setup

variable {s : Setup} {event : String} {flags given : List String} {inputs : Inputs}
  {loaded : HookInputs} {w : World} {name : String}

/-- Handling an event spares all flags but those of the reconciler. -/
theorem hook_spares (apart : s.StateApart) (other : name ∉ Flags.own) :
    s.flagFile.Spares name w.disk (s.hook event flags inputs w).1.disk := by
  rcases s.alike_or_reconciles event flags inputs w with
    alike | ⟨loaded, database, operator, files, reconciles⟩
  · rw [alike.disk]
    exact .refl s.flagFile name w.disk
  · have lie : files.LieAt s.layout := Service.lieAt_of_render reconciles.rendered
    apply reconciles.disk
    · intro d d' change before
      apply before.trans
      apply change.spares other
      · rw [lie.unit]
        exact apart.state_unit
      · rw [lie.settings]
        exact apart.state_settings
    · exact .refl s.flagFile name w.disk

/-- Flags that bring an event to the same point leave the same behind, but for what is logged. -/
theorem hook_congr
    (same : ∀ loaded, s.Reaches event flags inputs w loaded ↔ s.Reaches event given inputs w loaded) :
    (s.hook event given inputs w).2 = (s.hook event flags inputs w).2 ∧
      ∃ log, (s.hook event given inputs w).1 = { (s.hook event flags inputs w).1 with log } := by
  by_cases reached : ∃ loaded, s.Reaches event flags inputs w loaded
  · obtain ⟨loaded, reaches⟩ := reached
    rw [hook_of_reaches reaches, hook_of_reaches ((same loaded).mp reaches)]
    exact ⟨rfl, _, rfl⟩
  · have unreached := not_exists.mp reached
    obtain ⟨log, first⟩ := hook_of_unreached unreached
    obtain ⟨log', second⟩ := hook_of_unreached fun loaded reaches =>
      unreached loaded ((same loaded).mpr reaches)
    rw [first, second]
    exact ⟨rfl, log', rfl⟩

/-- Writing metrics adds no flag to the file, not even in its place. -/
theorem writeMetrics_never_made {v : Bool}
    (held : s.flagFile.stored? (s.writeMetrics w).disk name = some v) :
    s.flagFile.stored? w.disk name = some v := by
  obtain ⟨-, same | ⟨path, result, given, replacing⟩⟩ := s.writeMetrics_effect w
  · rwa [same] at held
  · by_cases there : path.place = s.stateFile.place
    -- The metrics replace the flags here: what holds no document holds no flag.
    · have file := replacing.file?_self
      rw [there] at file
      rcases file with same | ⟨-, written⟩
      · rwa [FlagFile.stored?_congr (f := s.flagFile) same] at held
      · rw [FlagFile.stored?_of_metrics (f := s.flagFile) written] at held
        cases held
    · have same := replacing.file?_other (Disk.place_proper s.stateFile) (Ne.symm there)
      rwa [FlagFile.stored?_congr (f := s.flagFile) same] at held

/-- Writing metrics elsewhere spares all flags. -/
theorem writeMetrics_spares
    (apart : ∀ path, s.metricsFile = some path → path.place ≠ s.stateFile.place) :
    s.flagFile.Spares name w.disk (s.writeMetrics w).disk := by
  obtain ⟨-, same | ⟨path, result, given, replacing⟩⟩ := s.writeMetrics_effect w
  · rw [same]
    exact .refl s.flagFile name w.disk
  · exact .of_same_file replacing.passable
      (replacing.file?_other (Disk.place_proper s.stateFile) (apart path given).symm)

end Setup

/-- The flags go one way. Over every history of calls, whatever fails in them, the service stays
configured once it is; it comes to be configured only by a call that has restarted it with both files
as rendered, and every call that restarts it leaves it configured; no flag but the reconciler's own
is touched. When an event is handled, no other flag comes to be stored and, where the file is found
by its path, none is lost; what is given with the event decides only whether the reconciler is
reached. -/
theorem flags_one_way :
    (∀ (goes : List Exchange → Program (Except ReconcileFault Outcome) → Prop) (s t : Surroundings),
      s.Maintained goes t →
        (s.flags.isSet Flags.configured = true → t.flags.isSet Flags.configured = true) ∧
        (∀ name, name ∉ Flags.own → t.flags.get? name = s.flags.get? name) ∧
        ∀ (r : Reconciliation) (exchanges : List Exchange)
          (rest : Program (Except ReconcileFault Outcome)) (u : Surroundings),
          r.service.layout.unitPath ≠ r.service.layout.configPath →
          r.program.Runs r.service.layout t exchanges rest u →
            (t.flags.isSet Flags.configured = false → u.flags.isSet Flags.configured = true →
              r.ConfiguresAfterRestart t exchanges) ∧
            (rest = .done (.ok .applied) → u.flags.isSet Flags.configured = true)) ∧
    ∀ (s : Setup) (event : String) (flags : List String) (inputs : Inputs) (w : World),
      s.StateApart →
        let after := s.perform (.hook event flags inputs) w
        (∀ name, name ∉ Flags.own → ∀ v, s.flagFile.stored? after.disk name = some v →
          s.flagFile.stored? w.disk name = some v) ∧
        ((∀ path, s.metricsFile = some path → path.place ≠ s.stateFile.place) →
          s.flagFile.IsReadable w.disk → ∀ name, name ∉ Flags.own →
            s.flagFile.stored? after.disk name = s.flagFile.stored? w.disk name) ∧
        ∀ given, (∀ loaded, s.Reaches event flags inputs w loaded ↔
            s.Reaches event given inputs w loaded) →
          (s.hook event given inputs w).2 = (s.hook event flags inputs w).2 ∧
            ∃ log, (s.hook event given inputs w).1 = { (s.hook event flags inputs w).1 with log } := by
  constructor
  · intro goes s t reached
    refine ⟨reached.configured_kept, fun name => reached.other_flags_kept, ?_⟩
    intro r exchanges rest u distinct runs
    constructor
    · exact Reconciliation.configures_after_restart distinct runs
    · rintro rfl
      exact Reconciliation.configured_of_applied distinct runs
  · intro s event flags inputs w apart
    refine ⟨?_, ?_, fun given => Setup.hook_congr⟩
    · intro name other v held
      exact (Setup.hook_spares apart other).never_made v (Setup.writeMetrics_never_made held)
    · intro metrics readable name other
      have handled : s.flagFile.Spares name w.disk (s.hook event flags inputs w).1.disk :=
        Setup.hook_spares apart other
      exact ((handled.trans (Setup.writeMetrics_spares metrics)).kept readable).2

open Reconciliation Setup in
/-- An installation configures the service by a restart, and the file of flags holds nothing but
what it held and what the reconciler keeps there when the interrupted reconciliation is resumed. -/
theorem flags_of_installation : resuming.StateApart ∧
    ∃ exchanges t, installation.program.Runs installation.service.layout .bare exchanges
        (.done (.ok .applied)) t ∧
      installation.ConfiguresAfterRestart .bare exchanges ∧
      t.flags.isSet Flags.configured = true ∧
      ∀ name, name ∉ Flags.own → ∀ v,
        resuming.flagFile.stored? (resuming.perform resumption World.interrupted).disk name = some v →
          resuming.flagFile.stored? World.interrupted.disk name = some v := by
  obtain ⟨t, runs, -⟩ := installation.runs_of_rehearsal installation_apart
    (Rehearsal.bare_shows {})
  rw [installation_applied] at runs
  obtain ⟨-, -, calls⟩ := flags_one_way.1 (fun _ _ => True) .bare .bare .start
  obtain ⟨configures, applied⟩ := calls installation _ _ t installation_apart.distinct runs
  have stored := (flags_one_way.2 resuming "config-changed" [Flags.baseConfigured] resumingInputs
    World.interrupted resuming_separate.toStateApart).1
  exact ⟨resuming_separate.toStateApart, _, t, runs, configures rfl (applied rfl), applied rfl, stored⟩

end Upkeep
