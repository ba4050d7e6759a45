import Upkeep.Proofs.Ensures

/-! Quiet requests change nothing and give no command. A run in which all requests are quiet leaves
the surroundings as they were, and whether a run was quiet can be told from its footprint. -/
namespace Upkeep

/-- Requests that change nothing and give no command. -/
def Request.isQuiet : Request → Bool
  | .read _ | .getFlag _ | .report _ _ | .log _ | .count _ | .observeDuration => true
  | .write _ _ _ | .setFlag _ _ | .reloadUnits | .restart _ => false

/-- A quiet request leaves the surroundings as they are. -/
theorem Surroundings.Step.eq_of_quiet {l : Layout} {s t : Surroundings} {r : Request}
    {answer : Answer r} (step : s.Step l r answer t) (quiet : r.isQuiet = true) : t = s := by
  cases r with
  | read path => exact step.1
  | getFlag name => exact step.1
  | report state message => exact step
  | log event => exact step
  | count counter => exact step
  | observeDuration => exact step
  | write path bytes mode => cases quiet
  | setFlag name value => cases quiet
  | reloadUnits => cases quiet
  | restart unit => cases quiet

namespace Program.Runs

variable {α : Type} {l : Layout} {p q : Program α} {s t : Surroundings} {exchanges : List Exchange}

/-- A run in which all requests are quiet leaves the surroundings as they are. -/
theorem eq_of_quiet (runs : p.Runs l s exchanges q t)
    (quiet : ∀ e ∈ exchanges, e.request.isQuiet = true) : t = s := by
  induction runs with
  | here p s => rfl
  | ask step more ih =>
    obtain ⟨first, later⟩ := List.forall_mem_cons.mp quiet
    exact (ih later).trans (step.eq_of_quiet first)

/-- What holds of all requests that are allowed holds of all that are made. -/
theorem forall_requests {allowed : Request → View → Prop} {post : α → Scene → Prop}
    {holds : Request → Prop} {f : Footprint} (distinct : l.unitPath ≠ l.configPath)
    (implies : ∀ r v, allowed r v → holds r)
    (ensures : p.Ensures l allowed post ⟨s.view l, f⟩) (runs : p.Runs l s exchanges q t) :
    ∀ e ∈ exchanges, holds e.request := by
  induction runs generalizing f with
  | here p s => exact List.forall_mem_nil _
  | @ask r next answer s t u exchanges rest step more ih =>
    refine List.forall_mem_cons.mpr ⟨implies _ _ ensures.1, ?_⟩
    have now := step.view_after distinct
    exact ih (now ▸ ensures.2 answer step.admits)

end Program.Runs

/-- Nothing was to be changed, and no command was given. -/
structure Footprint.Untouched (f : Footprint) : Prop where
  writes : f.writes = []
  marks : f.marks = []
  commands : f.commands = []

namespace Footprint.Untouched

variable {f : Footprint} {exchanges : List Exchange}

private theorem of_add {e : Exchange} (untouched : (f.add e).Untouched) :
    f.Untouched ∧ e.request.isQuiet = true := by
  obtain ⟨request, answer⟩ := e
  unfold add at untouched
  generalize same : (if Exchange.failed ⟨request, answer⟩ then f.refused else f) = g at untouched
  have before : f.writes = g.writes ∧ f.marks = g.marks ∧ f.commands = g.commands := by
    rw [← same]
    split <;> exact ⟨rfl, rfl, rfl⟩
  have back (kept : g.Untouched) : f.Untouched :=
    ⟨before.1.trans kept.writes, before.2.1.trans kept.marks, before.2.2.trans kept.commands⟩
  cases request with
  | read path => exact ⟨back ⟨untouched.writes, untouched.marks, untouched.commands⟩, rfl⟩
  | report state message =>
    exact ⟨back ⟨untouched.writes, untouched.marks, untouched.commands⟩, rfl⟩
  | getFlag name => exact ⟨back untouched, rfl⟩
  | log event => exact ⟨back untouched, rfl⟩
  | count counter => exact ⟨back untouched, rfl⟩
  | observeDuration => exact ⟨back untouched, rfl⟩
  | write path bytes mode => exact absurd untouched.writes (by simp [Footprint.write])
  | setFlag name value => exact absurd untouched.marks (by simp [Footprint.mark])
  | reloadUnits => exact absurd untouched.commands (by simp [Footprint.command])
  | restart unit => exact absurd untouched.commands (by simp [Footprint.command])

private theorem of_foldl_add (untouched : (exchanges.foldl add f).Untouched) :
    f.Untouched ∧ ∀ e ∈ exchanges, e.request.isQuiet = true := by
  induction exchanges generalizing f with
  | nil => exact ⟨untouched, List.forall_mem_nil _⟩
  | cons e rest ih =>
    obtain ⟨before, later⟩ := ih untouched
    obtain ⟨first, quiet⟩ := before.of_add
    exact ⟨first, List.forall_mem_cons.mpr ⟨quiet, later⟩⟩

/-- A run that was to change nothing leaves the surroundings as they are. -/
theorem eq_of_runs {α : Type} {l : Layout} {p q : Program α} {s t : Surroundings}
    (untouched : (of exchanges).Untouched) (runs : p.Runs l s exchanges q t) : t = s :=
  runs.eq_of_quiet untouched.of_foldl_add.2

end Footprint.Untouched

/-- Quiet requests may be asked in every view. -/
def AllowsQuiet (allowed : Request → View → Prop) : Prop :=
  ∀ r v, r.isQuiet = true → allowed r v

end Upkeep
