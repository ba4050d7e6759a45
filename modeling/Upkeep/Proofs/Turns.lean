import Upkeep.Proofs.Surroundings

/-! Requests in turn. Which request a program may make next can depend on the exchange before it;
unlike what a program ensures, that holds whatever is answered and whoever answers. So it carries
over to partial runs among surroundings that refuse at will, and to complete runs with a host. -/
namespace Upkeep

/-- Whatever is answered, each request may come after the exchange before it, and the end is one
that may come after the last exchange. -/
def Program.InTurn {α : Type} (turn : Option Exchange → Request → Prop)
    (post : α → Option Exchange → Prop) : Program α → Option Exchange → Prop
  | .done result, last => post result last
  | .ask r next, last => turn last r ∧ ∀ answer, (next answer).InTurn turn post (some ⟨r, answer⟩)

namespace Program.InTurn

variable {α β σ : Type} {turn : Option Exchange → Request → Prop} {post : α → Option Exchange → Prop}
  {p q : Program α} {last : Option Exchange} {l : Layout} {s t : Surroundings}
  {exchanges : List Exchange}

theorem mono {weaker : α → Option Exchange → Prop} (inTurn : p.InTurn turn post last)
    (implies : ∀ result last, post result last → weaker result last) :
    p.InTurn turn weaker last := by
  induction p generalizing last with
  | done result => exact implies result last inTurn
  | ask r next ih =>
    constructor
    · exact inTurn.1
    · intro answer
      exact ih answer (inTurn.2 answer)

theorem widen {wider : Option Exchange → Request → Prop} (inTurn : p.InTurn turn post last)
    (allows : ∀ last r, turn last r → wider last r) : p.InTurn wider post last := by
  induction p generalizing last with
  | done result => exact inTurn
  | ask r next ih =>
    constructor
    · exact allows last r inTurn.1
    · intro answer
      exact ih answer (inTurn.2 answer)

/-- What goes in two turns goes in both at once. -/
theorem and {other : Option Exchange → Request → Prop} {ends : α → Option Exchange → Prop}
    (inTurn : p.InTurn turn post last) (inOther : p.InTurn other ends last) :
    p.InTurn (fun last r => turn last r ∧ other last r)
      (fun result last => post result last ∧ ends result last) last := by
  induction p generalizing last with
  | done result => exact ⟨inTurn, inOther⟩
  | ask r next ih =>
    constructor
    · exact ⟨inTurn.1, inOther.1⟩
    · intro answer
      exact ih answer (inTurn.2 answer) (inOther.2 answer)

theorem bind {post : β → Option Exchange → Prop} {next : α → Program β}
    (first : p.InTurn turn (fun result last => (next result).InTurn turn post last) last) :
    (p >>= next).InTurn turn post last := by
  change (p.bind next).InTurn turn post last
  induction p generalizing last with
  | done result => exact first
  | ask r rest ih =>
    constructor
    · exact first.1
    · intro answer
      exact ih answer (first.2 answer)

/-- What is left of a program in the middle of a run goes on in turn. -/
theorem of_runs (inTurn : p.InTurn turn post last) (runs : p.Runs l s exchanges q t) :
    q.InTurn turn post (exchanges.getLast?.or last) := by
  induction runs generalizing last with
  | here p s => exact inTurn
  | @ask r next answer s t u exchanges rest step more ih =>
    have later := ih (inTurn.2 answer)
    rw [List.getLast?_cons]
    cases ends : exchanges.getLast? with
    | none => simpa [ends] using later
    | some e => simpa [ends] using later

/-- What every exchange that comes in turn keeps holds wherever a run is cut short. -/
theorem runs_keep (kept : Option Exchange → Surroundings → Prop) (fine : Exchange → Prop)
    (inTurn : p.InTurn turn post last) (runs : p.Runs l s exchanges q t)
    (all : ∀ e ∈ exchanges, fine e)
    (keeps : ∀ last r s (answer : Answer r) t, turn last r → fine ⟨r, answer⟩ →
      s.Step l r answer t → kept last s → kept (some ⟨r, answer⟩) t)
    (start : kept last s) : kept (exchanges.getLast?.or last) t := by
  -- The run may stop anywhere, so the induction is on the run and not on the program.
  induction runs generalizing last with
  | here p s => exact start
  | @ask r next answer s t u exchanges rest step more ih =>
    obtain ⟨first, others⟩ := List.forall_mem_cons.mp all
    have later := ih (inTurn.2 answer) others (keeps last r s answer t inTurn.1 first step start)
    rw [List.getLast?_cons]
    cases ends : exchanges.getLast? with
    | none => simpa [ends] using later
    | some e => simpa [ends] using later

/-- What every request that comes in turn keeps holds at the end of a run with a host. -/
theorem run_keeps {host : Host σ} (kept : σ → Prop) {state : σ}
    (inTurn : p.InTurn turn post last)
    (keeps : ∀ last r state, turn last r → kept state → kept (host r state).2)
    (start : kept state) : kept (p.run host state).2 := by
  induction p generalizing last state with
  | done result => exact start
  | ask r next ih => exact ih _ (inTurn.2 _) (keeps last r state inTurn.1 start)

/-- Two hosts come to the same result where they answer alike whatever comes in turn. -/
theorem run_pair {τ : Type} {host : Host σ} {host' : Host τ} (alike : σ → τ → Prop) {state : σ}
    {state' : τ} (inTurn : p.InTurn turn post last)
    (answers : ∀ last r state state', turn last r → alike state state' →
      (host' r state').1 = (host r state).1 ∧ alike (host r state).2 (host' r state').2)
    (start : alike state state') :
    (p.run host' state').1 = (p.run host state).1 ∧
      alike (p.run host state).2 (p.run host' state').2 := by
  induction p generalizing last state state' with
  | done result => exact ⟨rfl, start⟩
  | ask r next ih =>
    obtain ⟨same, goesOn⟩ := answers last r state state' inTurn.1 start
    have later := ih (host r state).1 (inTurn.2 _) goesOn
    have first : (ask r next).run host state = (next (host r state).1).run host (host r state).2 := rfl
    have second : (ask r next).run host' state' =
        (next (host' r state').1).run host' (host' r state').2 := rfl
    rw [first, second, same]
    exact later

/-- The first of two programs goes in turn. -/
theorem of_bind {post : β → Option Exchange → Prop} {next : α → Program β}
    (inTurn : (p >>= next).InTurn turn post last) : p.InTurn turn (fun _ _ => True) last := by
  change (p.bind next).InTurn turn post last at inTurn
  induction p generalizing last with
  | done result => trivial
  | ask r rest ih =>
    constructor
    · exact inTurn.1
    · intro answer
      exact ih answer (inTurn.2 answer)

/-- The second of two programs goes on in turn after the first. -/
theorem rest {post : β → Option Exchange → Prop} {next : α → Program β}
    (inTurn : (p >>= next).InTurn turn post last) (host : Host σ) (state : σ) :
    ∃ last, (next (p.run host state).1).InTurn turn post last := by
  change (p.bind next).InTurn turn post last at inTurn
  induction p generalizing last state with
  | done result => exact ⟨last, inTurn⟩
  | ask r rest ih => exact ih _ (host r state).2 (inTurn.2 (host r state).1)

end Program.InTurn

/-- Two programs are run one after the other. -/
theorem Program.run_bind {α β σ : Type} (p : Program α) (next : α → Program β) (host : Host σ)
    (state : σ) : (p >>= next).run host state =
      (next (p.run host state).1).run host (p.run host state).2 := by
  change (p.bind next).run host state = _
  induction p generalizing state with
  | done result => rfl
  | ask r rest ih => exact ih _ (host r state).2

theorem Program.run_request {σ : Type} (r : Request) (host : Host σ) (state : σ) :
    (request r).run host state = host r state :=
  rfl

namespace Action

variable {ε δ α β σ : Type} {host : Host σ} {state middle : σ} {x : Action ε α}

/-- An action that comes to a result is followed by the next one. -/
theorem run_bind_of_ok {a : α} (next : α → Action ε β)
    (ran : x.run.run host state = (.ok a, middle)) :
    (x >>= next).run.run host state = (next a).run.run host middle := by
  have both : (x >>= next).run.run host state = _ := Program.run_bind x.run _ host state
  rw [both, ran]
  rfl

/-- An action that fails is the last one. -/
theorem run_bind_of_error {fault : ε} (next : α → Action ε β)
    (ran : x.run.run host state = (.error fault, middle)) :
    (x >>= next).run.run host state = (.error fault, middle) := by
  have both : (x >>= next).run.run host state = _ := Program.run_bind x.run _ host state
  rw [both, ran]
  rfl

theorem run_mapFault (wrap : δ → ε) (x : Action δ α) (host : Host σ) (state : σ) :
    (mapFault wrap x).run.run host state =
      ((x.run.run host state).1.mapError wrap, (x.run.run host state).2) :=
  Program.run_bind x.run _ host state

end Action

/-- The same for a program that may fail, with one condition for success and one for failure. -/
def Action.InTurn {ε α : Type} (turn : Option Exchange → Request → Prop) (x : Action ε α)
    (last : Option Exchange) (ok : α → Option Exchange → Prop) (bad : ε → Option Exchange → Prop) :
    Prop :=
  Program.InTurn turn
    (fun result last => match result with
      | .ok a => ok a last
      | .error e => bad e last)
    x.run last

namespace Action.InTurn

variable {ε δ α β : Type} {turn : Option Exchange → Request → Prop} {last : Option Exchange}
  {bad : ε → Option Exchange → Prop}

theorem bind {x : Action ε α} {next : α → Action ε β} {ok : β → Option Exchange → Prop}
    (first : x.InTurn turn last (fun a last => (next a).InTurn turn last ok bad) bad) :
    Action.InTurn turn (x >>= next) last ok bad := by
  apply Program.InTurn.bind
  apply Program.InTurn.mono first
  rintro (e | a) last after <;> exact after

theorem mapFault {x : Action δ α} {wrap : δ → ε} {ok : α → Option Exchange → Prop}
    (inner : x.InTurn turn last ok (fun e last => bad (wrap e) last)) :
    Action.InTurn turn (Action.mapFault wrap x) last ok bad := by
  apply Program.InTurn.bind
  apply Program.InTurn.mono inner
  rintro (e | a) last after <;> exact after

theorem outcome {x : Action δ α} {ok : Except δ α → Option Exchange → Prop}
    (inner : x.InTurn turn last (fun a last => ok (.ok a) last) (fun e last => ok (.error e) last)) :
    Action.InTurn turn (Action.outcome x : Action ε (Except δ α)) last ok bad := by
  apply Program.InTurn.bind
  apply Program.InTurn.mono inner
  rintro (e | a) last after <;> exact after

theorem discard {x : Action ε α} {ok : Unit → Option Exchange → Prop}
    (inner : x.InTurn turn last (fun _ last => ok () last) bad) :
    Action.InTurn turn (Functor.discard x) last ok bad := by
  apply Program.InTurn.bind
  apply Program.InTurn.mono inner
  rintro (e | a) last after <;> exact after

end Action.InTurn

/-- If the action goes in turn and comes to a result, it leaves the state as it shall be. -/
def Action.Leaves {ε α σ : Type} (turn : Option Exchange → Request → Prop) (host : Host σ)
    (x : Action ε α) (state : σ) (left : σ → Prop) : Prop :=
  ∀ post last, Program.InTurn turn post x.run last →
    ∀ a after, x.run.run host state = (.ok a, after) → left after

namespace Action.Leaves

variable {ε δ α β σ : Type} {turn : Option Exchange → Request → Prop} {host : Host σ} {state : σ}
  {left : σ → Prop}

/-- What each request that comes in turn keeps is left by an action that starts with it. -/
theorem of_kept {x : Action ε α}
    (keeps : ∀ last r state, turn last r → left state → left (host r state).2)
    (start : left state) : x.Leaves turn host state left := by
  intro post last inTurn a after ran
  have kept := inTurn.run_keeps left keeps start
  rwa [ran] at kept

private theorem run_bind_eq_ok {x : Action ε α} {next : α → Action ε β} {b : β} {after : σ}
    (ran : (x >>= next).run.run host state = (.ok b, after)) :
    ∃ a middle, x.run.run host state = (.ok a, middle) ∧
      (next a).run.run host middle = (.ok b, after) := by
  cases first : x.run.run host state with
  | mk result middle =>
    cases result with
    | error fault =>
      rw [run_bind_of_error next first] at ran
      cases ran
    | ok a =>
      rw [run_bind_of_ok next first] at ran
      exact ⟨a, middle, rfl, ran⟩

private theorem rest_inTurn {x : Action ε α} {next : α → Action ε β} {last : Option Exchange}
    {post : Except ε β → Option Exchange → Prop} {a : α} {middle : σ}
    (inTurn : Program.InTurn turn post (x >>= next).run last)
    (ran : x.run.run host state = (.ok a, middle)) :
    ∃ last, Program.InTurn turn post (next a).run last := by
  have goesOn := Program.InTurn.rest inTurn host state
  have result : (Program.run host x state).1 = .ok a := congrArg Prod.fst ran
  rwa [result] at goesOn

/-- What comes last decides what is left. -/
theorem later {x : Action ε α} {next : α → Action ε β}
    (rest : ∀ a middle, x.run.run host state = (.ok a, middle) →
      (next a).Leaves turn host middle left) :
    Action.Leaves turn host (x >>= next) state left := by
  intro post last inTurn b after ran
  obtain ⟨a, middle, first, second⟩ := run_bind_eq_ok ran
  obtain ⟨between, goesOn⟩ := rest_inTurn inTurn first
  exact rest a middle first post between goesOn b after second

/-- What comes first may decide what is left if the rest keeps it. -/
theorem first {x : Action ε α} {next : α → Action ε β}
    (keeps : ∀ last r state, turn last r → left state → left (host r state).2)
    (begins : x.Leaves turn host state left) :
    Action.Leaves turn host (x >>= next) state left := by
  intro post last inTurn b after ran
  obtain ⟨a, middle, first, second⟩ := run_bind_eq_ok ran
  have done : left middle := begins _ last (Program.InTurn.of_bind inTurn) a middle first
  obtain ⟨between, goesOn⟩ := rest_inTurn inTurn first
  exact of_kept keeps done post between goesOn b after second

theorem mapFault {x : Action δ α} {wrap : δ → ε} (inner : x.Leaves turn host state left) :
    (Action.mapFault wrap x).Leaves turn host state left := by
  intro post last inTurn a after ran
  rw [run_mapFault] at ran
  cases first : x.run.run host state with
  | mk result middle =>
    rw [first] at ran
    cases result with
    | error fault => cases ran
    | ok b =>
      cases ran
      exact inner _ last (Program.InTurn.of_bind inTurn) _ _ first

theorem discard {x : Action ε α} (inner : x.Leaves turn host state left) :
    Action.Leaves turn host (Functor.discard x) state left := by
  intro post last inTurn a after ran
  have both : (Functor.discard x : Action ε Unit).run.run host state = _ :=
    Program.run_bind x.run _ host state
  rw [both] at ran
  cases first : x.run.run host state with
  | mk result middle =>
    rw [first] at ran
    cases result with
    | error fault => cases ran
    | ok b =>
      cases ran
      exact inner _ last (Program.InTurn.of_bind inTurn) _ _ first

end Action.Leaves

end Upkeep
