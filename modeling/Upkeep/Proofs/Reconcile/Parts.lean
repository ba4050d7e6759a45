import Upkeep.Proofs.Quiet

/-! What each part of a reconciliation ensures, with all that it asks for. Each rule leaves one
condition for the end that goes well and one for each way to fail; conditions speak of the view and
the footprint that the part leaves. -/
namespace Upkeep

variable {ε : Type} {l : Layout} {allowed : Request → View → Prop} {v : View} {f : Footprint}

namespace Action.Ensures

theorem log {event : Log.Event} {ok : Unit → Scene → Prop} {bad : ε → Scene → Prop}
    (quiet : AllowsQuiet allowed) (done : ok () ⟨v, f⟩) :
    Action.Ensures l allowed (Action.log event) ⟨v, f⟩ ok bad :=
  ⟨quiet _ _ rfl, fun _ _ => done⟩

theorem count {counter : Counter} {ok : Unit → Scene → Prop} {bad : ε → Scene → Prop}
    (quiet : AllowsQuiet allowed) (done : ok () ⟨v, f⟩) :
    Action.Ensures l allowed (Action.count counter) ⟨v, f⟩ ok bad :=
  ⟨quiet _ _ rfl, fun _ _ => done⟩

theorem reloadUnits {ok : Unit → Scene → Prop} {bad : ServiceFault → Scene → Prop}
    (may : allowed .reloadUnits v)
    (done : ok () ⟨{ v with loaded := v.files.unit }, f.command .reloadUnits (.ok ())⟩)
    (refused : ∀ fault, bad fault ⟨v, (f.command .reloadUnits (.error fault)).refused⟩) :
    Action.Ensures l allowed Action.reloadUnits ⟨v, f⟩ ok bad := by
  refine ⟨may, ?_⟩
  rintro (fault | answer) admits
  · exact refused fault
  · exact done

theorem restart {unit : String} {ok : Unit → Scene → Prop} {bad : ServiceFault → Scene → Prop}
    (may : allowed (.restart unit) v)
    (done : ok () ⟨{ v with started := v.files }, f.command (.restart unit) (.ok ())⟩)
    (refused : ∀ fault, bad fault ⟨v, (f.command (.restart unit) (.error fault)).refused⟩) :
    Action.Ensures l allowed (Action.restart unit) ⟨v, f⟩ ok bad := by
  refine ⟨may, ?_⟩
  rintro (fault | answer) admits
  · exact refused fault
  · exact done

end Action.Ensures

namespace Service

variable {bad : ReconcileFault → Scene → Prop}

theorem getFlag_ensures {name : String} {ok : Bool → Scene → Prop} (quiet : AllowsQuiet allowed)
    (done : ok (v.flags.isSet name) ⟨v, f⟩) (refused : ∀ fault, bad (.flag fault) ⟨v, f.refused⟩) :
    Action.Ensures l allowed (Service.getFlag name) ⟨v, f⟩ ok bad := by
  refine .mapFault ⟨quiet _ _ rfl, ?_⟩
  rintro (fault | value) admits
  · exact refused fault
  · cases admits
    exact done

theorem setFlag_ensures {name : String} {value : Bool} {ok : Unit → Scene → Prop}
    (may : allowed (.setFlag name value) v)
    (done : ok () ⟨{ v with flags := v.flags.insert name value }, f.mark name value⟩)
    (refused : ∀ fault, bad (.flag fault) ⟨v, (f.mark name value).refused⟩) :
    Action.Ensures l allowed (Service.setFlag name value) ⟨v, f⟩ ok bad := by
  refine .mapFault ⟨may, ?_⟩
  rintro (fault | answer) admits
  · exact refused fault
  · exact done

theorem reportReady_ensures {ok : Unit → Scene → Prop} (quiet : AllowsQuiet allowed)
    (done : ok () ⟨v, f.report .active WorkloadState.readyMessage⟩)
    (refused : ∀ fault,
      bad (.status fault) ⟨v, (f.report .active WorkloadState.readyMessage).refused⟩) :
    Action.Ensures l allowed Service.reportReady ⟨v, f⟩ ok bad := by
  refine .mapFault ⟨quiet _ _ rfl, ?_⟩
  rintro (fault | answer) admits
  · exact refused fault
  · exact done

/-- Telling about a restart that failed never fails, whether or not the report does. -/
theorem restartFailed_ensures {fault : ServiceFault} {ok : Unit → Scene → Prop}
    (quiet : AllowsQuiet allowed)
    (done : ∀ g, g = f ∨ g = f.refused →
      ok () ⟨v, g.report .blocked WorkloadState.restartFailedMessage⟩) :
    Action.Ensures l allowed (Service.restartFailed fault) ⟨v, f⟩ ok bad := by
  refine .bind (.log quiet (.bind (.outcome ⟨quiet _ _ rfl, ?_⟩)))
  rintro (refused | answer) admits
  · exact .log quiet (done _ (.inr rfl))
  · exact .pure (done _ (.inl rfl))

end Service

namespace Artifact

variable {a : Artifact} {bad : ArtifactFault → Scene → Prop}

private theorem add_read_refused {path : Path} {fault : Fault} (other : fault ≠ .noSuchFile) :
    f.add ⟨.read path, .error fault⟩ = (f.read path).refused := by
  have failed : Exchange.failed ⟨.read path, .error fault⟩ = true := by
    unfold Exchange.failed
    split <;> simp_all
  simp only [Footprint.add, failed, ↓reduceIte]
  rfl

theorem readCurrent_ensures {ok : Option ByteArray → Scene → Prop}
    (quiet : AllowsQuiet allowed) (own : a.path = l.unitPath ∨ a.path = l.configPath)
    (done : ok (v.content l a.path) ⟨v, f.read a.path⟩)
    (refused : ∀ fault, bad (.unreadable a.path fault) ⟨v, (f.read a.path).refused⟩) :
    Action.Ensures l allowed a.readCurrent ⟨v, f⟩ ok bad := by
  refine ⟨quiet _ _ rfl, fun answer admits => ?_⟩
  change Program.Ensures l allowed _ (.done (current? a.path answer)) _
  cases admits own with
  | held bytes same =>
    rw [same] at done
    exact done
  | missing none =>
    rw [none] at done
    exact done
  | refused fault other =>
    rw [current?_refused other, add_read_refused other]
    exact refused fault

theorem isStale_ensures {ok : Bool → Scene → Prop} (quiet : AllowsQuiet allowed)
    (own : a.path = l.unitPath ∨ a.path = l.configPath)
    (done : ok (v.content l a.path != some a.bytes) ⟨v, f.read a.path⟩)
    (refused : ∀ fault, bad (.unreadable a.path fault) ⟨v, (f.read a.path).refused⟩) :
    Action.Ensures l allowed a.isStale ⟨v, f⟩ ok bad :=
  .bind (readCurrent_ensures quiet own (.pure done) refused)

private theorem store_of_fresh {path : Path} {bytes : ByteArray}
    (own : path = l.unitPath ∨ path = l.configPath) (fresh : v.content l path = some bytes) :
    v.store l path bytes = v := by
  by_cases unit : path = l.unitPath
  · simp only [View.content, unit, ↓reduceIte] at fresh
    simp only [View.store, unit, ↓reduceIte, ← fresh]
  · obtain rfl := own.resolve_left unit
    simp only [View.content, unit, ↓reduceIte] at fresh
    simp only [View.store, unit, ↓reduceIte, ← fresh]

/-- When applying a file goes well, it is in place, and it was written only if it was not before. -/
theorem apply_ensures {ok : Bool → Scene → Prop} (quiet : AllowsQuiet allowed)
    (own : a.path = l.unitPath ∨ a.path = l.configPath)
    (may : v.content l a.path ≠ some a.bytes → allowed (.write a.path a.bytes a.mode) v)
    (done : ∀ changed, ok changed ⟨v.store l a.path a.bytes, { f with
      reads := f.reads ++ [a.path]
      writes := f.writes ++ if v.content l a.path != some a.bytes then [a.path] else [] }⟩)
    (failed : ∀ fault writes, bad fault ⟨v, { f with
      reads := f.reads ++ [a.path], writes, failed := true }⟩) :
    Action.Ensures l allowed a.apply ⟨v, f⟩ ok bad := by
  refine .bind (readCurrent_ensures quiet own ?_ fun fault => failed _ _)
  split
  · rename_i fresh
    have kept := done false
    simp only [store_of_fresh own fresh, fresh, bne_self_eq_false, Bool.false_eq_true, ↓reduceIte,
      List.append_nil] at kept
    exact .bind (.log quiet (.pure kept))
  · rename_i stale
    have changed := done true
    simp only [bne_iff_ne.mpr stale, ↓reduceIte] at changed
    refine .bind (.log quiet (.bind (.mapFault ⟨may stale, ?_⟩)))
    rintro (fault | answer) admits
    · exact failed _ _
    · exact Action.Ensures.bind (.count quiet (.bind (.log quiet (.pure changed))))

end Artifact

end Upkeep
