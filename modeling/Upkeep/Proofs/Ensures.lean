import Upkeep.Proofs.Surroundings

/-! What a program ensures, whatever it is answered. A program is followed through views of its
surroundings, which each answer changes in one way only. `of_runs` carries what is ensured over to
the runs themselves; the other rules follow the way programs are put together. -/
namespace Upkeep

/-- Byte arrays that compare equal are equal. -/
instance lawfulBEqByteArray : LawfulBEq ByteArray where
  rfl {a} := by
    change (a.data == a.data) = true
    exact beq_self_eq_true a.data
  eq_of_beq {a b} same := by
    change (a.data == b.data) = true at same
    exact ByteArray.ext (eq_of_beq same)

/-- What of the surroundings concerns a service. -/
structure View where
  files : ServedFiles
  flags : Flags
  loaded : Option ByteArray
  started : ServedFiles

/-- The view of a service on its surroundings. -/
def Surroundings.view (l : Layout) (s : Surroundings) : View :=
  ⟨s.files l, s.flags, s.loaded, s.started⟩

namespace View

/-- What the file at one of the two paths of a service holds. -/
def content (l : Layout) (v : View) (path : Path) : Option ByteArray :=
  if path = l.unitPath then v.files.unit else v.files.settings

/-- The view when a file has been replaced. -/
def store (l : Layout) (v : View) (path : Path) (bytes : ByteArray) : View :=
  if path = l.unitPath then { v with files.unit := some bytes }
  else if path = l.configPath then { v with files.settings := some bytes }
  else v

variable {l : Layout} {v : View} {path : Path} {bytes : ByteArray}

@[simp]
theorem store_flags : (v.store l path bytes).flags = v.flags := by
  unfold store
  split
  · rfl
  · split <;> rfl

@[simp]
theorem store_loaded : (v.store l path bytes).loaded = v.loaded := by
  unfold store
  split
  · rfl
  · split <;> rfl

theorem store_unit_of_ne (other : path ≠ l.unitPath) :
    (v.store l path bytes).files.unit = v.files.unit := by
  simp only [store, other, ↓reduceIte]
  split <;> rfl

/-- The answers that a view leaves possible. -/
def Admits (l : Layout) (v : View) : (r : Request) → Answer r → Prop
  | .read path, answer => path = l.unitPath ∨ path = l.configPath → Reads (v.content l path) answer
  | .getFlag name, .ok value => value = v.flags.isSet name
  | _, _ => True

/-- The view after a request was answered. -/
def after (l : Layout) (v : View) : (r : Request) → Answer r → View
  | .write path bytes _, .ok () => v.store l path bytes
  | .setFlag name value, .ok () => { v with flags := v.flags.insert name value }
  | .reloadUnits, .ok () => { v with loaded := v.files.unit }
  | .restart _, .ok () => { v with started := v.files }
  | _, _ => v

end View

theorem Surroundings.view_of_spared {l : Layout} {s : Surroundings} {disk : Disk}
    (spared : Spared l s.disk disk) : ({ s with disk } : Surroundings).view l = s.view l := by
  simp [view, files, spared.unit, spared.settings]

namespace Surroundings.Step

variable {l : Layout} {s t : Surroundings} {r : Request} {answer : Answer r}

theorem admits (step : s.Step l r answer t) : (s.view l).Admits l r answer := by
  cases r with
  | read path =>
    rintro (rfl | rfl)
    · simpa [View.content, view, files] using step.2
    · by_cases same : l.configPath = l.unitPath
      · simpa [View.content, view, files, same] using same ▸ step.2
      · simpa [View.content, view, files, same] using step.2
  | getFlag name =>
    cases answer with
    | ok value => exact step.2 value rfl
    | error fault => trivial
  | _ => trivial

private theorem store_view {path : Path} {bytes : ByteArray} {disk : Disk}
    (distinct : l.unitPath ≠ l.configPath) (replaced : Replaced l path bytes s.disk disk) :
    ({ s with disk } : Surroundings).view l = (s.view l).store l path bytes := by
  by_cases unit : path = l.unitPath
  · subst unit
    simp [view, files, View.store, replaced.written, replaced.settings distinct]
  · by_cases config : path = l.configPath
    · subst config
      simp [view, files, View.store, unit, replaced.written, replaced.unit unit]
    · simp [view, files, View.store, unit, config, replaced.unit unit, replaced.settings config]

/-- The view after a step is the one that the answer calls for. -/
theorem view_after (distinct : l.unitPath ≠ l.configPath) (step : s.Step l r answer t) :
    t.view l = (s.view l).after l r answer := by
  cases r with
  | read path => rw [step.1]; rfl
  | getFlag name => rw [step.1]; rfl
  | write path bytes mode =>
    cases answer with
    | ok done =>
      obtain ⟨disk, replaced, rfl⟩ := step
      exact store_view distinct replaced
    | error fault =>
      obtain ⟨disk, spared, rfl⟩ := step
      exact view_of_spared spared
  | setFlag name value =>
    cases answer with
    | ok done =>
      obtain ⟨disk, spared, rfl⟩ := step
      exact congrArg (fun v : View => { v with flags := s.flags.insert name value })
        (view_of_spared spared)
    | error fault =>
      obtain ⟨disk, spared, rfl⟩ := step
      exact view_of_spared spared
  | reloadUnits => cases answer <;> (cases step; rfl)
  | restart unit => cases answer <;> (cases step; rfl)
  | _ => cases step; rfl

end Surroundings.Step

/-- A point of a run: the view, and what was asked for until then. -/
structure Scene where
  view : View
  footprint : Footprint := {}

/-- Whatever is answered, each request is asked in a view that allows it, and the end is as it
shall be. -/
def Program.Ensures {α : Type} (l : Layout) (allowed : Request → View → Prop)
    (post : α → Scene → Prop) : Program α → Scene → Prop
  | .done result, c => post result c
  | .ask r next, c => allowed r c.view ∧ ∀ answer, c.view.Admits l r answer →
      (next answer).Ensures l allowed post ⟨c.view.after l r answer, c.footprint.add ⟨r, answer⟩⟩

namespace Program.Ensures

variable {α β : Type} {l : Layout} {allowed : Request → View → Prop} {post : α → Scene → Prop}
  {p q : Program α} {c : Scene} {s t : Surroundings} {exchanges : List Exchange}

/-- What a program ensures holds of each of its runs. -/
theorem of_runs {f : Footprint} (distinct : l.unitPath ≠ l.configPath)
    (ensures : p.Ensures l allowed post ⟨s.view l, f⟩) (runs : p.Runs l s exchanges q t) :
    q.Ensures l allowed post ⟨t.view l, exchanges.foldl Footprint.add f⟩ := by
  induction runs generalizing f with
  | here p s => exact ensures
  | ask step more ih =>
    rw [List.foldl_cons]
    apply ih
    rw [step.view_after distinct]
    exact ensures.2 _ step.admits

/-- A complete run ends as the program ensures. -/
theorem of_complete {result : α} (distinct : l.unitPath ≠ l.configPath)
    (ensures : p.Ensures l allowed post ⟨s.view l, {}⟩)
    (runs : p.Runs l s exchanges (.done result) t) :
    post result ⟨t.view l, Footprint.of exchanges⟩ :=
  of_runs distinct ensures runs

/-- What every allowed request keeps holds wherever a run is cut short. -/
theorem invariant {f : Footprint} {kept : View → Prop} (distinct : l.unitPath ≠ l.configPath)
    (keeps : ∀ r v (answer : Answer r), allowed r v → kept v → kept (v.after l r answer))
    (ensures : p.Ensures l allowed post ⟨s.view l, f⟩) (runs : p.Runs l s exchanges q t)
    (start : kept (s.view l)) : kept (t.view l) := by
  induction runs generalizing f with
  | here p s => exact start
  | @ask r next answer s t u exchanges rest step more ih =>
    have now := step.view_after distinct
    refine ih (now ▸ ensures.2 answer step.admits) ?_
    rw [now]
    exact keeps r _ answer ensures.1 start

theorem mono {weaker : α → Scene → Prop} (ensures : p.Ensures l allowed post c)
    (implies : ∀ result c, post result c → weaker result c) : p.Ensures l allowed weaker c := by
  induction p generalizing c with
  | done result => exact implies result c ensures
  | ask r next ih => exact ⟨ensures.1, fun answer admits => ih answer (ensures.2 answer admits)⟩

theorem widen {wider : Request → View → Prop} (ensures : p.Ensures l allowed post c)
    (allows : ∀ r v, allowed r v → wider r v) : p.Ensures l wider post c := by
  induction p generalizing c with
  | done result => exact ensures
  | ask r next ih =>
    exact ⟨allows r c.view ensures.1, fun answer admits => ih answer (ensures.2 answer admits)⟩

theorem bind {post : β → Scene → Prop} {next : α → Program β}
    (first : p.Ensures l allowed (fun result c => (next result).Ensures l allowed post c) c) :
    (p >>= next).Ensures l allowed post c := by
  change (p.bind next).Ensures l allowed post c
  induction p generalizing c with
  | done result => exact first
  | ask r rest ih => exact ⟨first.1, fun answer admits => ih answer (first.2 answer admits)⟩

end Program.Ensures

/-- The same for a program that may fail, with one condition for success and one for failure. -/
def Action.Ensures {ε α : Type} (l : Layout) (allowed : Request → View → Prop) (x : Action ε α)
    (c : Scene) (ok : α → Scene → Prop) (bad : ε → Scene → Prop) : Prop :=
  Program.Ensures l allowed
    (fun result c => match result with
      | .ok a => ok a c
      | .error e => bad e c)
    x.run c

namespace Action.Ensures

variable {ε δ α β : Type} {l : Layout} {allowed : Request → View → Prop} {c : Scene}
  {bad : ε → Scene → Prop}

theorem pure {a : α} {ok : α → Scene → Prop} (h : ok a c) :
    Action.Ensures l allowed (Pure.pure a : Action ε α) c ok bad :=
  h

theorem throw {e : ε} {ok : α → Scene → Prop} (h : bad e c) :
    Action.Ensures l allowed (MonadExcept.throw e : Action ε α) c ok bad :=
  h

theorem bind {x : Action ε α} {next : α → Action ε β} {ok : β → Scene → Prop}
    (first : Action.Ensures l allowed x c
      (fun a c => Action.Ensures l allowed (next a) c ok bad) bad) :
    Action.Ensures l allowed (x >>= next) c ok bad := by
  refine Program.Ensures.bind (Program.Ensures.mono first ?_)
  rintro (e | a) c h <;> exact h

theorem mapFault {x : Action δ α} {wrap : δ → ε} {ok : α → Scene → Prop}
    (h : Action.Ensures l allowed x c ok (fun e c => bad (wrap e) c)) :
    Action.Ensures l allowed (Action.mapFault wrap x) c ok bad := by
  refine Program.Ensures.bind (Program.Ensures.mono h ?_)
  rintro (e | a) c h <;> exact h

theorem outcome {x : Action δ α} {ok : Except δ α → Scene → Prop}
    (h : Action.Ensures l allowed x c (fun a c => ok (.ok a) c) (fun e c => ok (.error e) c)) :
    Action.Ensures l allowed (Action.outcome x : Action ε (Except δ α)) c ok bad := by
  refine Program.Ensures.bind (Program.Ensures.mono h ?_)
  rintro (e | a) c h <;> exact h

theorem discard {x : Action ε α} {ok : Unit → Scene → Prop}
    (h : Action.Ensures l allowed x c (fun _ c => ok () c) bad) :
    Action.Ensures l allowed (Functor.discard x) c ok bad := by
  refine Program.Ensures.bind (Program.Ensures.mono h ?_)
  rintro (e | a) c h <;> exact h

end Action.Ensures

end Upkeep
