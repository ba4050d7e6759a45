import Upkeep.Proofs.Reconcile.Course
import Upkeep.Proofs.Turns

/-! Two reconciliations in lockstep. Where the same files are stale, two calls of a service with
different files ask for the same things in the same order: they write other contents to the same
paths, and what they log differs in the digests of these contents only. So it goes on as long as they
are answered alike, whatever fails on the way. -/
namespace Upkeep

namespace Log

/-- An event without the digests of what files hold. -/
def Event.withoutDigests : Event → Event
  | artifactDiffers path previous _ => artifactDiffers path (previous.map fun _ => "") ""
  | event => event

/-- An entry without the digests of what files hold. -/
def Entry.withoutDigests (e : Entry) : Entry :=
  { e with event := e.event.withoutDigests }

end Log

/-- Files that go together in two runs are written to the same paths with the same modes. -/
structure Artifact.Twinned (twins : Artifact → Artifact → Prop) : Prop where
  path : ∀ a a', twins a a' → a'.path = a.path
  mode : ∀ a a', twins a a' → a'.mode = a.mode

/-- Two readings of files that go together: they fail alike, or what is there is as it shall be in
both runs or in none. -/
inductive ReadAlike (a a' : Artifact) : Except Fault ByteArray → Except Fault ByteArray → Prop where
  | failed (fault : Fault) : ReadAlike a a' (.error fault) (.error fault)
  | found {content content' : ByteArray} (same : content = a.bytes ↔ content' = a'.bytes) :
      ReadAlike a a' (.ok content) (.ok content')

/-- Requests that two runs make in the same words. -/
def Request.isShared : Request → Bool
  | .read _ | .write _ _ _ | .log _ => false
  | _ => true

/-- Two programs make their requests in lockstep as long as they are answered alike: files that go
together read alike, and all else is answered the same. -/
inductive Program.Lockstep {α : Type} (twins : Artifact → Artifact → Prop) (post : α → α → Prop) :
    Program α → Program α → Prop where
  | done {a a' : α} (ends : post a a') : Lockstep twins post (.done a) (.done a')
  | read {a a' : Artifact} {next : Except Fault ByteArray → Program α}
      {next' : Except Fault ByteArray → Program α} (pair : twins a a')
      (rest : ∀ answer answer', ReadAlike a a' answer answer' →
        Lockstep twins post (next answer) (next' answer')) :
      Lockstep twins post (.ask (.read a.path) next) (.ask (.read a'.path) next')
  | write {a a' : Artifact} {next : Except Fault Unit → Program α}
      {next' : Except Fault Unit → Program α} (pair : twins a a')
      (rest : ∀ answer, Lockstep twins post (next answer) (next' answer)) :
      Lockstep twins post (.ask (.write a.path a.bytes a.mode) next)
        (.ask (.write a'.path a'.bytes a'.mode) next')
  | log {event event' : Log.Event} {next next' : Unit → Program α}
      (same : event'.withoutDigests = event.withoutDigests)
      (rest : Lockstep twins post (next ()) (next' ())) :
      Lockstep twins post (.ask (.log event) next) (.ask (.log event') next')
  | shared {r : Request} {next next' : Answer r → Program α} (shared : r.isShared = true)
      (rest : ∀ answer, Lockstep twins post (next answer) (next' answer)) :
      Lockstep twins post (.ask r next) (.ask r next')

namespace Program.Lockstep

variable {α β : Type} {twins : Artifact → Artifact → Prop} {p p' : Program α}

theorem bind {middle : α → α → Prop} {post : β → β → Prop} {next next' : α → Program β}
    (first : p.Lockstep twins middle p')
    (later : ∀ a a', middle a a' → (next a).Lockstep twins post (next' a')) :
    (p >>= next).Lockstep twins post (p' >>= next') := by
  change (p.bind next).Lockstep twins post (p'.bind next')
  induction first with
  | done ends => exact later _ _ ends
  | read pair rest ih => exact .read pair ih
  | write pair rest ih => exact .write pair ih
  | log same rest ih => exact .log same ih
  | shared shared rest ih => exact .shared shared ih

theorem request {post : β → β → Prop} {r : Request} {next next' : Answer r → Program β}
    (shared : r.isShared = true)
    (later : ∀ answer, (next answer).Lockstep twins post (next' answer)) :
    (Program.request r >>= next).Lockstep twins post (Program.request r >>= next') :=
  .shared shared later

end Program.Lockstep

/-- Requests that reach for no files but those that go together. -/
inductive Request.Within (twins : Artifact → Artifact → Prop) : Request → Prop where
  | read {a a' : Artifact} (pair : twins a a') : Within twins (.read a.path)
  | write {a a' : Artifact} (pair : twins a a') : Within twins (.write a.path a.bytes a.mode)
  | log (event : Log.Event) : Within twins (.log event)
  | shared {r : Request} (shared : r.isShared = true) : Within twins r

/-- To every reading there is one that goes with it. -/
theorem ReadAlike.exists_twin (a a' : Artifact) (answer : Except Fault ByteArray) :
    ∃ answer', ReadAlike a a' answer answer' := by
  cases answer with
  | error fault => exact ⟨_, .failed fault⟩
  | ok content =>
    by_cases same : content = a.bytes
    · exact ⟨.ok a'.bytes, .found (iff_of_true same rfl)⟩
    · have other : a'.bytes.push 0 ≠ a'.bytes := fun grown => by
        simpa using congrArg ByteArray.size grown
      exact ⟨.ok (a'.bytes.push 0), .found (iff_of_false same other)⟩

/-- Programs that go in lockstep reach for no other files, whatever they are answered. -/
theorem Program.Lockstep.inTurn {α : Type} {twins : Artifact → Artifact → Prop} {p p' : Program α}
    {post : α → α → Prop} (lockstep : p.Lockstep twins post p') (last : Option Exchange) :
    p.InTurn (fun _ r => r.Within twins) (fun _ _ => True) last := by
  induction lockstep generalizing last with
  | done ends => trivial
  | @read a a' next next' pair rest ih =>
    refine ⟨.read pair, fun answer => ?_⟩
    obtain ⟨answer', alike⟩ := ReadAlike.exists_twin a a' answer
    exact ih answer answer' alike _
  | write pair rest ih => exact ⟨.write pair, fun answer => ih answer _⟩
  | log same rest ih => exact ⟨.log _, fun _ => ih _⟩
  | shared shared rest ih => exact ⟨.shared shared, fun answer => ih answer _⟩

/-- Two actions in lockstep that come to the same result. -/
def Action.Lockstep {ε α : Type} (twins : Artifact → Artifact → Prop) (x x' : Action ε α) : Prop :=
  Program.Lockstep twins (· = ·) x.run x'.run

namespace Action.Lockstep

variable {ε δ α β : Type} {twins : Artifact → Artifact → Prop}

theorem pure (a : α) :
    Action.Lockstep twins (Pure.pure a : Action ε α) (Pure.pure a) :=
  .done rfl

theorem throw (e : ε) :
    Action.Lockstep twins (MonadExcept.throw e : Action ε α) (MonadExcept.throw e) :=
  .done rfl

theorem bind {x x' : Action ε α} {next next' : α → Action ε β} (first : x.Lockstep twins x')
    (later : ∀ a, (next a).Lockstep twins (next' a)) :
    Action.Lockstep twins (x >>= next) (x' >>= next') := by
  apply Program.Lockstep.bind first
  rintro (e | a) _ rfl
  · exact .done rfl
  · exact later a

theorem mapFault {x x' : Action δ α} {wrap : δ → ε} (inner : x.Lockstep twins x') :
    Action.Lockstep twins (Action.mapFault wrap x) (Action.mapFault wrap x') := by
  apply Program.Lockstep.bind inner
  rintro result _ rfl
  exact .done rfl

theorem outcome {x x' : Action δ α} (inner : x.Lockstep twins x') :
    Action.Lockstep twins (Action.outcome x : Action ε (Except δ α)) (Action.outcome x') := by
  apply Program.Lockstep.bind inner
  rintro result _ rfl
  exact .done rfl

theorem discard {x x' : Action ε α} (inner : x.Lockstep twins x') :
    Action.Lockstep twins (Functor.discard x) (Functor.discard x') :=
  bind inner fun _ => pure ()

theorem log (event : Log.Event) :
    Action.Lockstep twins (Action.log event : Action ε Unit) (Action.log event) :=
  Program.Lockstep.log rfl (.done rfl)

theorem count (counter : Counter) :
    Action.Lockstep twins (Action.count counter : Action ε Unit) (Action.count counter) :=
  .shared rfl fun _ => .done rfl

theorem report (state : WorkloadState) (message : String) :
    (Action.report state message).Lockstep twins (Action.report state message) :=
  .shared rfl fun _ => .done rfl

theorem getFlag (name : String) :
    (Action.getFlag name).Lockstep twins (Action.getFlag name) :=
  .shared rfl fun _ => .done rfl

theorem setFlag (name : String) (value : Bool) :
    (Action.setFlag name value).Lockstep twins (Action.setFlag name value) :=
  .shared rfl fun _ => .done rfl

theorem reloadUnits : Action.reloadUnits.Lockstep twins Action.reloadUnits :=
  .shared rfl fun _ => .done rfl

theorem restart (unit : String) :
    (Action.restart unit).Lockstep twins (Action.restart unit) :=
  .shared rfl fun _ => .done rfl

end Action.Lockstep

namespace Artifact

variable {twins : Artifact → Artifact → Prop} {a a' : Artifact}

/-- What a file holds is told from what shall be there in both runs or in none. -/
inductive CurrentAlike (a a' : Artifact) : Except ArtifactFault (Option ByteArray) →
    Except ArtifactFault (Option ByteArray) → Prop where
  | failed (fault : ArtifactFault) : CurrentAlike a a' (.error fault) (.error fault)
  | missing : CurrentAlike a a' (.ok none) (.ok none)
  | found {content content' : ByteArray} (same : content = a.bytes ↔ content' = a'.bytes) :
      CurrentAlike a a' (.ok (some content)) (.ok (some content'))

theorem current?_alike (path : a'.path = a.path) {answer answer' : Except Fault ByteArray}
    (read : ReadAlike a a' answer answer') :
    CurrentAlike a a' (current? a.path answer) (current? a'.path answer') := by
  cases read with
  | failed fault =>
    rw [path]
    unfold current?
    split
    · rename_i same
      cases same
    · exact .missing
    · exact .failed _
  | found same => exact .found same

theorem readCurrent_lockstep (alike : Twinned twins) (pair : twins a a') :
    Program.Lockstep twins (CurrentAlike a a') a.readCurrent.run a'.readCurrent.run := by
  refine .read pair fun answer answer' read => .done ?_
  exact current?_alike (alike.path a a' pair) read

theorem isStale_lockstep (alike : Twinned twins) (pair : twins a a') :
    a.isStale.Lockstep twins a'.isStale := by
  refine Program.Lockstep.bind (readCurrent_lockstep alike pair) ?_
  rintro current current' (fault | _ | ⟨same⟩)
  · exact .done rfl
  · exact .done rfl
  · refine .done (congrArg Except.ok (Bool.eq_iff_iff.mpr ?_))
    simp only [bne_iff_ne, ne_eq, Option.some.injEq, same]

theorem write_lockstep (alike : Twinned twins) (pair : twins a a') :
    a.write.Lockstep twins a'.write := by
  have asked : Program.Lockstep twins (· = ·)
      (Program.request (.write a.path a.bytes a.mode))
      (Program.request (.write a'.path a'.bytes a'.mode)) := .write pair fun _ => .done rfl
  refine Program.Lockstep.bind asked ?_
  rintro answer _ rfl
  rw [alike.path a a' pair]
  exact .done rfl

/-- Replacing files that go together is logged with the digests of what they held and hold. -/
private theorem replace_lockstep (alike : Twinned twins) (pair : twins a a')
    {previous previous' : Option String}
    (same : previous'.map (fun _ => "") = previous.map fun _ => "") :
    Action.Lockstep twins
      (do
        Action.log (.artifactDiffers a.path previous (Sha256.hex a.bytes))
        a.write
        Action.count .artifactsWritten
        Action.log (.artifactWritten a.path)
        return true)
      (do
        Action.log (.artifactDiffers a'.path previous' (Sha256.hex a'.bytes))
        a'.write
        Action.count .artifactsWritten
        Action.log (.artifactWritten a'.path)
        return true) := by
  rw [alike.path a a' pair]
  have differs : (Log.Event.artifactDiffers a.path previous' (Sha256.hex a'.bytes)).withoutDigests =
      (Log.Event.artifactDiffers a.path previous (Sha256.hex a.bytes)).withoutDigests := by
    simp only [Log.Event.withoutDigests, same]
  refine .bind (Program.Lockstep.log differs (.done rfl)) fun _ => ?_
  refine .bind (write_lockstep alike pair) fun _ => ?_
  exact .bind (.count _) fun _ => .bind (.log _) fun _ => .pure true

theorem apply_lockstep (alike : Twinned twins) (pair : twins a a') :
    a.apply.Lockstep twins a'.apply := by
  refine Program.Lockstep.bind (readCurrent_lockstep alike pair) ?_
  rintro current current' (fault | _ | @⟨content, content', same⟩)
  · exact .done rfl
  · exact replace_lockstep alike pair rfl
  · dsimp only [ExceptT.bindCont]
    by_cases fresh : content = a.bytes
    · have fresh' := same.mp fresh
      rw [if_pos (congrArg some fresh), if_pos (congrArg some fresh'), alike.path a a' pair]
      exact Action.Lockstep.bind (.log _) fun _ => .pure false
    · have stale : ¬some content = some a.bytes := fun held => fresh (Option.some.inj held)
      have stale' : ¬some content' = some a'.bytes := fun held => fresh (same.mpr (Option.some.inj held))
      rw [if_neg stale, if_neg stale', Option.map_some, Option.map_some]
      have same : (some (Sha256.hex content')).map (fun _ => "") =
          (some (Sha256.hex content)).map fun _ => "" := by
        rw [Option.map_some, Option.map_some]
      exact replace_lockstep alike pair same

end Artifact

namespace Service

variable {s : Service} {twins : Artifact → Artifact → Prop}

theorem reportReady_lockstep : reportReady.Lockstep twins reportReady :=
  .mapFault (.report _ _)

theorem setFlag_lockstep (name : String) (value : Bool) :
    (setFlag name value).Lockstep twins (setFlag name value) :=
  .mapFault (.setFlag name value)

theorem getFlag_lockstep (name : String) : (getFlag name).Lockstep twins (getFlag name) :=
  .mapFault (.getFlag name)

theorem markPending_lockstep (unitStale settingsStale : Bool) :
    (markPending unitStale settingsStale).Lockstep twins
      (markPending unitStale settingsStale) := by
  unfold markPending
  cases unitStale <;> cases settingsStale
  · exact .pure ()
  · exact setFlag_lockstep _ _
  · exact .bind (setFlag_lockstep _ _) fun _ => setFlag_lockstep _ _
  · exact .bind (setFlag_lockstep _ _) fun _ => setFlag_lockstep _ _

theorem restart_lockstep (reload : Bool) :
    (s.restart reload).Lockstep twins (s.restart reload) := by
  unfold restart
  cases reload with
  | false => exact .restart _
  | true => exact .bind .reloadUnits fun _ => .restart _

theorem restartFailed_lockstep (fault : ServiceFault) :
    (restartFailed fault).Lockstep twins (restartFailed fault) := by
  refine .bind (.log _) fun _ => .bind (.outcome (.report _ _)) fun reported => ?_
  cases reported with
  | ok done => exact .pure ()
  | error fault => exact .log _

theorem restartPending_lockstep : s.restartPending.Lockstep twins s.restartPending := by
  refine .bind (getFlag_lockstep _) fun reload => .bind (.outcome (restart_lockstep reload)) ?_
  rintro (fault | done)
  · exact .bind (restartFailed_lockstep fault) fun _ => .throw _
  · refine .bind (setFlag_lockstep _ _) fun _ => .bind (setFlag_lockstep _ _) fun _ => ?_
    refine .bind (setFlag_lockstep _ _) fun _ => .bind reportReady_lockstep fun _ => ?_
    exact .bind (.log _) fun _ => .pure _

theorem converge_lockstep {files files' : ServiceFiles} (alike : Artifact.Twinned twins)
    (unit : twins files.unit files'.unit) (settings : twins files.settings files'.settings) :
    (s.converge files).Lockstep twins (s.converge files') := by
  refine .bind (.mapFault (Artifact.isStale_lockstep alike unit)) fun unitStale => ?_
  refine .bind (.mapFault (Artifact.isStale_lockstep alike settings)) fun settingsStale => ?_
  refine .bind (markPending_lockstep unitStale settingsStale) fun _ => ?_
  refine .bind (.discard (.mapFault (Artifact.apply_lockstep alike unit))) fun _ => ?_
  refine .bind (.discard (.mapFault (Artifact.apply_lockstep alike settings))) fun _ => ?_
  refine .bind (getFlag_lockstep _) fun due => ?_
  cases due with
  | true => exact .bind (.log _) fun _ => restartPending_lockstep
  | false => exact .bind (.log _) fun _ => .bind reportReady_lockstep fun _ => .pure _

end Service

namespace Reconciliation

variable {r r' : Reconciliation}

/-- Which files of two calls go together: their units and their settings, unless the calls are
skipped and have none. -/
inductive Twins (r r' : Reconciliation) : Artifact → Artifact → Prop where
  | unit {files files' : ServiceFiles} (due : r.IsDue) (rendered : r.rendering = .ok files)
      (rendered' : r'.rendering = .ok files') : Twins r r' files.unit files'.unit
  | settings {files files' : ServiceFiles} (due : r.IsDue) (rendered : r.rendering = .ok files)
      (rendered' : r'.rendering = .ok files') : Twins r r' files.settings files'.settings

theorem Twins.due {a a' : Artifact} (twins : Twins r r' a a') : r.IsDue := by
  cases twins with
  | unit due rendered rendered' => exact due
  | settings due rendered rendered' => exact due

/-- The files of two calls can be rendered, or they fail alike. -/
inductive RendersLike (r r' : Reconciliation) : Prop where
  | rendered {files files' : ServiceFiles} (first : r.rendering = .ok files)
      (second : r'.rendering = .ok files') : RendersLike r r'
  | failed {fault : RenderFault} (first : r.rendering = .error fault)
      (second : r'.rendering = .error fault) : RendersLike r r'

theorem RendersLike.refl (r : Reconciliation) : r.RendersLike r := by
  cases rendered : r.rendering with
  | ok files => exact .rendered rendered rendered
  | error fault => exact .failed rendered rendered

/-- The files of one service have the same paths and modes, whatever they are rendered from. -/
theorem twinned (service : r'.service = r.service) : Artifact.Twinned (Twins r r') := by
  have alike {files files' : ServiceFiles} (rendered : r.rendering = .ok files)
      (rendered' : r'.rendering = .ok files') :
      files'.unit.path = files.unit.path ∧ files'.unit.mode = files.unit.mode ∧
        files'.settings.path = files.settings.path ∧ files'.settings.mode = files.settings.mode := by
    unfold rendering at rendered rendered'
    rw [service] at rendered'
    obtain ⟨unit, settings, -, -, rfl⟩ := Service.eq_of_render rendered
    obtain ⟨unit', settings', -, -, rfl⟩ := Service.eq_of_render rendered'
    exact ⟨rfl, rfl, rfl, rfl⟩
  constructor
  · rintro a a' (⟨due, rendered, rendered'⟩ | ⟨due, rendered, rendered'⟩)
    · exact (alike rendered rendered').1
    · exact (alike rendered rendered').2.2.1
  · rintro a a' (⟨due, rendered, rendered'⟩ | ⟨due, rendered, rendered'⟩)
    · exact (alike rendered rendered').2.1
    · exact (alike rendered rendered').2.2.2

theorem reconcileOnce_lockstep (service : r'.service = r.service) (trigger : r'.trigger = r.trigger)
    (renders : r.IsDue → r.RendersLike r') :
    Action.Lockstep (Twins r r') (r.service.reconcileOnce r.environment r.config r.trigger)
      (r'.service.reconcileOnce r'.environment r'.config r'.trigger) := by
  have alike := twinned service
  unfold Service.reconcileOnce
  rw [service, trigger]
  by_cases poll : r.trigger.event = r.service.pollEvent
  · rw [if_pos poll, if_pos poll]
    exact .bind (.log _) fun _ => .bind (.count _) fun _ =>
      .bind Service.reportReady_lockstep fun _ => .pure _
  · rw [if_neg poll, if_neg poll]
    cases database : r.trigger.hasDatabase with
    | false => exact .bind (.log _) fun _ => .bind (.count _) fun _ => .pure _
    | true =>
      have due : r.IsDue := ⟨poll, database⟩
      rw [if_pos rfl, if_pos rfl]
      cases renders due with
      | @rendered files files' rendered rendered' =>
        have first : r.service.render r.environment r.config = .ok files := rendered
        have second : r.service.render r'.environment r'.config = .ok files' := service ▸ rendered'
        rw [first, second]
        exact Service.converge_lockstep alike (.unit due rendered rendered')
          (.settings due rendered rendered')
      | @failed fault failed failed' =>
        have first : r.service.render r.environment r.config = .error fault := failed
        have second : r.service.render r'.environment r'.config = .error fault := service ▸ failed'
        rw [first, second]
        exact .throw _

/-- Two calls of one service for the same event go in lockstep: either they are skipped and never
look at files, or the files of both can be rendered or fail alike. -/
theorem program_lockstep (service : r'.service = r.service) (trigger : r'.trigger = r.trigger)
    (renders : r.IsDue → r.RendersLike r') :
    r.program.Lockstep (Twins r r') (· = ·) r'.program := by
  unfold program Service.reconcile
  refine .request rfl fun _ => .bind (reconcileOnce_lockstep service trigger renders) ?_
  rintro result _ rfl
  refine .request rfl fun _ => ?_
  rcases result with fault | (_ | _)
  · exact .request rfl fun _ => .done rfl
  · exact .done rfl
  · exact .request rfl fun _ => .done rfl

end Reconciliation

end Upkeep
