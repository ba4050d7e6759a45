import Upkeep.Proofs.Surroundings

/-! What programs may come to. Where it takes all answers to say what a program ensures, one way to
answer is enough here; such ends follow the way programs are put together. -/
namespace Upkeep

namespace Program

variable {α β : Type} {l : Layout} {p : Program α} {next : α → Program β} {s t u : Surroundings}

/-- A run of a program and a run of what comes after it make one run. -/
theorem Runs.bind {first later : List Exchange} {a : α} {q : Program β}
    (runs : p.Runs l s first (.done a) t) (more : (next a).Runs l t later q u) :
    (p >>= next).Runs l s (first ++ later) q u := by
  change (p.bind next).Runs l s (first ++ later) q u
  generalize ended : Program.done a = rest at runs
  induction runs with
  | here p s =>
    subst ended
    exact more
  | ask step runs ih => exact .ask step (ih more ended)

/-- Some answers lead a program to a result and leave these surroundings. -/
def MayEnd (l : Layout) (p : Program α) (s : Surroundings) (result : α) (t : Surroundings) : Prop :=
  ∃ exchanges, p.Runs l s exchanges (.done result) t

namespace MayEnd

variable {a : α} {b : β}

theorem done : MayEnd l (.done a) s a s :=
  ⟨[], .here _ s⟩

theorem bind (first : p.MayEnd l s a t) (later : (next a).MayEnd l t b u) :
    (p >>= next).MayEnd l s b u := by
  obtain ⟨exchanges, runs⟩ := first
  obtain ⟨others, more⟩ := later
  exact ⟨exchanges ++ others, runs.bind more⟩

theorem request {r : Request} {answer : Answer r} (step : s.Step l r answer t) :
    (Program.request r).MayEnd l s answer t :=
  ⟨[⟨r, answer⟩], .ask step (.here _ t)⟩

end MayEnd

end Program

/-- The same for a program that may fail. -/
def Action.MayEnd {ε α : Type} (l : Layout) (x : Action ε α) (s : Surroundings)
    (result : Except ε α) (t : Surroundings) : Prop :=
  Program.MayEnd l x.run s result t

namespace Action.MayEnd

variable {ε δ α β : Type} {l : Layout} {s t u : Surroundings}

theorem pure {a : α} : Action.MayEnd l (Pure.pure a : Action ε α) s (.ok a) s :=
  Program.MayEnd.done

theorem bind {x : Action ε α} {next : α → Action ε β} {a : α} {result : Except ε β}
    (first : x.MayEnd l s (.ok a) t) (later : (next a).MayEnd l t result u) :
    Action.MayEnd l (x >>= next) s result u :=
  Program.MayEnd.bind first later

theorem bind_error {x : Action ε α} {next : α → Action ε β} {fault : ε}
    (first : x.MayEnd l s (.error fault) t) :
    Action.MayEnd l (x >>= next) s (.error fault) t :=
  Program.MayEnd.bind first Program.MayEnd.done

theorem mapFault {x : Action δ α} {wrap : δ → ε} {result : Except δ α}
    (inner : x.MayEnd l s result t) :
    (Action.mapFault wrap x).MayEnd l s (result.mapError wrap) t :=
  Program.MayEnd.bind inner Program.MayEnd.done

theorem discard {x : Action ε α} {a : α} (inner : x.MayEnd l s (.ok a) t) :
    Action.MayEnd l (Functor.discard x) s (.ok ()) t :=
  Program.MayEnd.bind inner Program.MayEnd.done

theorem log {event : Log.Event} :
    Action.MayEnd l (Action.log event : Action ε Unit) s (.ok ()) s :=
  Program.MayEnd.bind (.request rfl) Program.MayEnd.done

end Action.MayEnd

variable {l : Layout} {s : Surroundings}

namespace Service

theorem getFlag_mayEnd {name : String} :
    (getFlag name).MayEnd l s (.ok (s.flags.isSet name)) s := by
  have step : s.Step l (.getFlag name) (.ok (s.flags.isSet name)) s := by
    refine ⟨rfl, fun value answered => ?_⟩
    exact (Except.ok.inj answered).symm
  exact .mapFault (Program.MayEnd.request step)

theorem setFlag_mayEnd {name : String} {value : Bool} :
    (setFlag name value).MayEnd l s (.ok ()) { s with flags := s.flags.insert name value } := by
  have step : s.Step l (.setFlag name value) (.ok ())
      { s with flags := s.flags.insert name value } := ⟨s.disk, ⟨rfl, rfl⟩, rfl⟩
  exact .mapFault (Program.MayEnd.request step)

theorem setFlag_mayEnd_refused {name : String} {value : Bool} {fault : FlagFault} :
    (setFlag name value).MayEnd l s (.error (.flag fault)) s := by
  have step : s.Step l (.setFlag name value) (.error fault) s := ⟨s.disk, ⟨rfl, rfl⟩, rfl⟩
  exact .mapFault (Program.MayEnd.request step)

theorem reportReady_mayEnd : reportReady.MayEnd l s (.ok ()) s := by
  have step : s.Step l (.report .active WorkloadState.readyMessage) (.ok ()) s := rfl
  exact .mapFault (Program.MayEnd.request step)

end Service

namespace Artifact

variable {a : Artifact} {bytes : ByteArray}

theorem readCurrent_mayEnd (there : s.disk.content? a.path = some bytes) :
    a.readCurrent.MayEnd l s (.ok (some bytes)) s := by
  have step : s.Step l (.read a.path) (.ok bytes) s := ⟨rfl, .held bytes there⟩
  exact Program.MayEnd.bind (.request step) .done

theorem isStale_mayEnd (there : s.disk.content? a.path = some bytes) :
    a.isStale.MayEnd l s (.ok (some bytes != some a.bytes)) s :=
  .bind (readCurrent_mayEnd there) .pure

/-- A file that is as it shall be need not be written. -/
theorem apply_mayEnd (fresh : s.disk.content? a.path = some a.bytes) :
    a.apply.MayEnd l s (.ok false) s := by
  apply Action.MayEnd.bind (readCurrent_mayEnd fresh)
  rw [if_pos rfl]
  exact .bind .log .pure

end Artifact

end Upkeep
