import Upkeep.Proofs.Reconcile.Course

/-! What a reconciliation asks to be counted. The counts are scattered over its parts, so they are
tallied along with what they stand for: files that were replaced and restarts that succeeded.
Whatever a call is answered, its result tells what it has asked to be counted. -/
namespace Upkeep

/-- What a run has asked to be counted, and what it got done. -/
structure Tally where
  counted : List Counter := []
  /-- The number of files that were replaced. -/
  written : Nat := 0
  /-- The number of restarts that succeeded. -/
  restarted : Nat := 0

namespace Tally

/-- The tally after one more answer. -/
def add (t : Tally) : (r : Request) → Answer r → Tally
  | .count counter, _ => { t with counted := t.counted ++ [counter] }
  | .write _ _ _, .ok () => { t with written := t.written + 1 }
  | .restart _, .ok () => { t with restarted := t.restarted + 1 }
  | _, _ => t

/-- Since then, nothing but files that were replaced has been counted, and each of these has. -/
structure Leads (t u : Tally) : Prop where
  counted : ∃ files, u.counted = t.counted ++ List.replicate files .artifactsWritten ∧
    u.written = t.written + files
  restarted : t.restarted ≤ u.restarted

variable {t u v : Tally}

theorem Leads.refl (t : Tally) : t.Leads t :=
  ⟨⟨0, by simp⟩, Nat.le_refl _⟩

theorem Leads.trans (first : t.Leads u) (second : u.Leads v) : t.Leads v := by
  obtain ⟨files, counted, written⟩ := first.counted
  obtain ⟨more, later, rest⟩ := second.counted
  refine ⟨⟨files + more, ?_, ?_⟩, Nat.le_trans first.restarted second.restarted⟩
  · rw [later, counted, List.append_assoc, List.replicate_append_replicate]
  · rw [rest, written, Nat.add_assoc]

end Tally

/-- Whatever is answered, the result and the tally at the end are as they shall be. -/
def Program.Tallies {α : Type} (post : α → Tally → Prop) : Program α → Tally → Prop
  | .done result, t => post result t
  | .ask r next, t => ∀ answer, (next answer).Tallies post (t.add r answer)

namespace Program.Tallies

variable {α β : Type} {p : Program α} {t : Tally}

theorem mono {post weaker : α → Tally → Prop} (tallies : p.Tallies post t)
    (implies : ∀ result u, post result u → weaker result u) : p.Tallies weaker t := by
  induction p generalizing t with
  | done result => exact implies result t tallies
  | ask r next ih => exact fun answer => ih answer (tallies answer)

theorem bind {post : β → Tally → Prop} {next : α → Program β}
    (first : p.Tallies (fun result u => (next result).Tallies post u) t) :
    (p >>= next).Tallies post t := by
  change (p.bind next).Tallies post t
  induction p generalizing t with
  | done result => exact first
  | ask r rest ih => exact fun answer => ih answer (first answer)

end Program.Tallies

/-- The same for a program that may fail, with one condition for success and one for failure. -/
def Action.Tallies {ε α : Type} (x : Action ε α) (t : Tally) (ok : α → Tally → Prop)
    (bad : ε → Tally → Prop) : Prop :=
  Program.Tallies
    (fun result u => match result with
      | .ok a => ok a u
      | .error e => bad e u)
    x.run t

namespace Action.Tallies

variable {ε δ α β : Type} {t : Tally} {bad : ε → Tally → Prop}

theorem mono {x : Action ε α} {ok better : α → Tally → Prop} {worse : ε → Tally → Prop}
    (tallies : x.Tallies t ok bad) (good : ∀ a u, ok a u → better a u)
    (failed : ∀ e u, bad e u → worse e u) : x.Tallies t better worse := by
  apply Program.Tallies.mono tallies
  rintro (e | a) u holds
  · exact failed e u holds
  · exact good a u holds

theorem bind {x : Action ε α} {next : α → Action ε β} {ok : β → Tally → Prop}
    (first : x.Tallies t (fun a u => (next a).Tallies u ok bad) bad) :
    Action.Tallies (x >>= next) t ok bad := by
  apply Program.Tallies.bind
  apply Program.Tallies.mono first
  rintro (e | a) u holds <;> exact holds

theorem mapFault {x : Action δ α} {wrap : δ → ε} {ok : α → Tally → Prop}
    (inner : x.Tallies t ok fun e u => bad (wrap e) u) :
    Action.Tallies (Action.mapFault wrap x) t ok bad := by
  apply Program.Tallies.bind
  apply Program.Tallies.mono inner
  rintro (e | a) u holds <;> exact holds

theorem outcome {x : Action δ α} {ok : Except δ α → Tally → Prop}
    (inner : x.Tallies t (fun a u => ok (.ok a) u) fun e u => ok (.error e) u) :
    Action.Tallies (Action.outcome x : Action ε (Except δ α)) t ok bad := by
  apply Program.Tallies.bind
  apply Program.Tallies.mono inner
  rintro (e | a) u holds <;> exact holds

end Action.Tallies

/-- An action that asks for no count but those of the files that it replaces. -/
def Action.Modest {ε α : Type} (x : Action ε α) : Prop :=
  ∀ t, x.Tallies t (fun _ u => t.Leads u) fun _ u => t.Leads u

namespace Action.Modest

variable {ε δ α β : Type}

theorem pure (a : α) : Action.Modest (Pure.pure a : Action ε α) :=
  .refl

/-- What an action leads to is led to by what leads to the action. -/
theorem following {x : Action ε α} {t u : Tally} (modest : x.Modest) (leads : t.Leads u) :
    x.Tallies u (fun _ v => t.Leads v) fun _ v => t.Leads v :=
  (modest u).mono (fun _ _ later => leads.trans later) fun _ _ later => leads.trans later

theorem bind {x : Action ε α} {next : α → Action ε β} (first : x.Modest)
    (later : ∀ a, (next a).Modest) : (x >>= next).Modest := fun t =>
  .bind ((first t).mono (fun a _ leads => (later a).following leads) fun _ _ leads => leads)

theorem mapFault {x : Action δ α} {wrap : δ → ε} (inner : x.Modest) :
    (Action.mapFault wrap x).Modest := fun t => .mapFault (inner t)

theorem outcome {x : Action δ α} (inner : x.Modest) :
    (Action.outcome x : Action ε (Except δ α)).Modest := fun t => .outcome (inner t)

theorem discard {x : Action ε α} (inner : x.Modest) :
    (Functor.discard x : Action ε Unit).Modest :=
  bind inner fun _ => pure ()

theorem log {event : Log.Event} : (Action.log event : Action ε Unit).Modest :=
  fun t _ => .refl t

theorem report {state : WorkloadState} {message : String} : (Action.report state message).Modest := by
  rintro t (fault | done) <;> exact .refl t

theorem getFlag {name : String} : (Action.getFlag name).Modest := by
  rintro t (fault | value) <;> exact .refl t

theorem setFlag {name : String} {value : Bool} : (Action.setFlag name value).Modest := by
  rintro t (fault | done) <;> exact .refl t

theorem reloadUnits : Action.reloadUnits.Modest := by
  rintro t (fault | done) <;> exact .refl t

end Action.Modest

namespace Artifact

variable {a : Artifact}

theorem readCurrent_modest : a.readCurrent.Modest := by
  intro t answer
  change Program.Tallies _ (.done (current? a.path answer)) _
  cases current? a.path answer <;> exact .refl t

theorem isStale_modest : a.isStale.Modest :=
  .bind readCurrent_modest fun _ => .pure _

/-- A file that is replaced is counted. -/
theorem write_tallies (t : Tally) : Action.Tallies a.write t
    (fun _ u => u = { t with written := t.written + 1 }) (fun _ u => u = t) := by
  refine .mapFault ?_
  rintro (fault | done) <;> rfl

theorem apply_modest : a.apply.Modest := by
  refine .bind readCurrent_modest fun current => ?_
  split
  · exact .bind .log fun _ => .pure false
  · refine .bind .log fun _ t => .bind ((write_tallies t).mono ?_ ?_)
    · rintro - _ rfl -
      have counted : t.Leads ⟨t.counted ++ [.artifactsWritten], t.written + 1, t.restarted⟩ :=
        ⟨⟨1, rfl, rfl⟩, Nat.le_refl _⟩
      exact (Action.Modest.bind .log fun _ => .pure true).following counted
    · rintro - u same
      exact same ▸ .refl t

end Artifact

/-- An action that restarts the service if it applies something, and asks for no count but those of
the files that it replaces. -/
def Action.Restarts (x : Reconciling Outcome) : Prop :=
  ∀ t, x.Tallies t
    (fun outcome u => t.Leads u ∧ (outcome = .applied → t.restarted < u.restarted))
    fun _ u => t.Leads u

namespace Action.Restarts

variable {α : Type} {x : Reconciling α} {next : α → Reconciling Outcome}

theorem unchanged {x : Reconciling Unit} (first : x.Modest) :
    Action.Restarts (x >>= fun _ => pure .unchanged) := fun t =>
  .bind ((first t).mono (fun _ _ leads => ⟨leads, nofun⟩) fun _ _ leads => leads)

theorem bind (first : x.Modest) (later : ∀ a, Action.Restarts (next a)) :
    Action.Restarts (x >>= next) := by
  intro t
  refine .bind ((first t).mono (fun a u leads => ?_) fun _ _ leads => leads)
  refine (later a u).mono ?_ fun _ _ more => leads.trans more
  rintro outcome v ⟨more, restarted⟩
  exact ⟨leads.trans more, fun applied => Nat.lt_of_le_of_lt leads.restarted (restarted applied)⟩

end Action.Restarts

namespace Service

variable {s : Service} {files : ServiceFiles} {name : String} {value : Bool}

theorem reportReady_modest : reportReady.Modest :=
  .mapFault .report

theorem setFlag_modest : (setFlag name value).Modest :=
  .mapFault .setFlag

theorem getFlag_modest : (getFlag name).Modest :=
  .mapFault .getFlag

theorem markPending_modest {unitStale settingsStale : Bool} :
    (markPending unitStale settingsStale).Modest := by
  unfold markPending
  cases unitStale <;> cases settingsStale
  · exact .pure ()
  · exact setFlag_modest
  · exact .bind setFlag_modest fun _ => setFlag_modest
  · exact .bind setFlag_modest fun _ => setFlag_modest

theorem restartFailed_modest {fault : ServiceFault} : (restartFailed fault).Modest := by
  refine .bind .log fun _ => .bind (.outcome .report) fun reported => ?_
  cases reported with
  | ok done => exact .pure ()
  | error fault => exact .log

theorem restart_tallies (reload : Bool) (t : Tally) : (s.restart reload).Tallies t
    (fun _ u => t.Leads u ∧ t.restarted < u.restarted) fun _ u => t.Leads u := by
  have restarted (u : Tally) (leads : t.Leads u) : (Action.restart s.layout.serviceName).Tallies u
      (fun _ v => t.Leads v ∧ t.restarted < v.restarted) fun _ v => t.Leads v := by
    rintro (fault | done)
    · exact leads
    · have more : u.Leads { u with restarted := u.restarted + 1 } :=
        ⟨⟨0, by simp⟩, Nat.le_succ _⟩
      exact ⟨leads.trans more, Nat.lt_succ_of_le leads.restarted⟩
  unfold restart
  cases reload with
  | false => exact restarted t (.refl t)
  | true => exact .bind ((Action.Modest.reloadUnits t).mono (fun _ u leads => restarted u leads)
      fun _ _ leads => leads)

theorem restartPending_restarts : Action.Restarts s.restartPending := by
  refine .bind getFlag_modest fun reload t => ?_
  refine .bind (.outcome ((restart_tallies reload t).mono ?_ ?_))
  · rintro - u ⟨leads, restarted⟩
    have settled : Action.Modest (do
        setFlag Flags.configured true
        setFlag Flags.reloadPending false
        setFlag Flags.restartPending false
        reportReady
        Action.log .reconciled
        return Outcome.applied) :=
      .bind setFlag_modest fun _ => .bind setFlag_modest fun _ => .bind setFlag_modest fun _ =>
        .bind reportReady_modest fun _ => .bind .log fun _ => .pure _
    refine (settled u).mono ?_ fun _ _ more => leads.trans more
    intro outcome v more
    exact ⟨leads.trans more, fun _ => Nat.lt_of_lt_of_le restarted more.restarted⟩
  · intro fault u leads
    refine .bind ((restartFailed_modest u).mono ?_ fun _ _ more => leads.trans more)
    exact fun _ _ more => leads.trans more

theorem converge_restarts : Action.Restarts (s.converge files) := by
  refine .bind (.mapFault Artifact.isStale_modest) fun unitStale => ?_
  refine .bind (.mapFault Artifact.isStale_modest) fun settingsStale => ?_
  refine .bind markPending_modest fun _ => ?_
  refine .bind (.discard (.mapFault Artifact.apply_modest)) fun _ => ?_
  refine .bind (.discard (.mapFault Artifact.apply_modest)) fun _ => ?_
  refine .bind getFlag_modest fun due => ?_
  cases due with
  | true => exact .bind .log fun _ => restartPending_restarts
  | false => exact .bind .log fun _ => .unchanged reportReady_modest

end Service

namespace Reconciliation

variable {r : Reconciliation}

/-- Whether a call is skipped: it is a poll, or there is no database. -/
def isSkipped (r : Reconciliation) : Bool :=
  r.trigger.event == r.service.pollEvent || !r.trigger.hasDatabase

/-- What a call asks to be counted that comes to a result after it replaced some files. -/
def counters (r : Reconciliation) (written : Nat) (result : Except ReconcileFault Outcome) :
    List Counter :=
  .reconciliations :: (if r.isSkipped then [.skipped] else []) ++
    List.replicate written .artifactsWritten ++
    match result with
    | .ok .applied => [.applied]
    | .ok .unchanged => []
    | .error _ => [.errors]

/-- Whatever a call is answered, its result and the files it replaced tell what it has asked to be
counted, and it has applied something only if a restart succeeded. -/
theorem program_tallies (r : Reconciliation) : r.program.Tallies
    (fun result t => t.counted = r.counters t.written result ∧
      (result = .ok .applied → 0 < t.restarted)) {} := by
  let start : Tally := { counted := .reconciliations :: if r.isSkipped then [.skipped] else [] }
  have once : (r.service.reconcileOnce r.environment r.config r.trigger).Tallies
      { counted := [.reconciliations] }
      (fun outcome u => start.Leads u ∧ (outcome = .applied → 0 < u.restarted))
      fun _ u => start.Leads u := by
    unfold Service.reconcileOnce
    split
    · rename_i poll
      have skipped : start = { counted := [.reconciliations, .skipped] } := by
        simp [start, isSkipped, poll]
      intro logged counted
      rw [skipped]
      exact Action.Restarts.unchanged Service.reportReady_modest _
    · rename_i notPoll
      split
      · rename_i hasDatabase
        have due : start = { counted := [.reconciliations] } := by
          simp [start, isSkipped, notPoll, hasDatabase]
        rw [due]
        split
        · exact .refl _
        · exact Service.converge_restarts _
      · rename_i noDatabase
        have skipped : start = { counted := [.reconciliations, .skipped] } := by
          simp [start, isSkipped, noDatabase]
        intro logged counted
        rw [skipped]
        exact ⟨.refl _, nofun⟩
  refine Program.Tallies.bind fun _ => Program.Tallies.bind (Program.Tallies.mono once ?_)
  intro result u ends
  have counted (leads : start.Leads u) :
      u.counted = start.counted ++ List.replicate u.written .artifactsWritten := by
    obtain ⟨files, counted, written⟩ := leads.counted
    have none : start.written = 0 := rfl
    rw [counted, written, none, Nat.zero_add]
  match result with
  | .error fault => exact fun _ _ => ⟨congrArg (· ++ [Counter.errors]) (counted ends), nofun⟩
  | .ok .unchanged =>
    exact fun _ => ⟨(counted ends.1).trans (List.append_nil _).symm, nofun⟩
  | .ok .applied => exact fun _ _ => ⟨congrArg (· ++ [Counter.applied]) (counted ends.1), fun _ => ends.2 rfl⟩

end Reconciliation

end Upkeep
