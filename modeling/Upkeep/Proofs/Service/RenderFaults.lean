import Upkeep.Proofs.Service.UnitEnvironment

/-! Why a unit cannot be rendered, and what is told about it. The variables are looked through in
name order, the name of each before its value, so the fault is about the first variable that is
refused. It names the variable and nothing else: environments which have the same names, and control
characters under the same names, are told apart by no fault. -/
namespace Upkeep

namespace SortedMap

variable {α : Type} {m : SortedMap α} {keep : String × α → Bool} {entry : String × α}

/-- The first pair that passes a test is the one with the smallest name. -/
theorem find?_toList_eq_some_iff : m.toList.find? keep = some entry ↔
    m.get? entry.1 = some entry.2 ∧ keep entry = true ∧
      ∀ other value, m.get? other = some value → keep (other, value) = true → entry.1 ≤ other := by
  have smallest {found : String × α} (first : m.toList.find? keep = some found) :
      ∀ other value, m.get? other = some value → keep (other, value) = true → found.1 ≤ other := by
    obtain ⟨-, before, after, same, skipped⟩ := List.find?_eq_some_iff_append.mp first
    intro other value stored passes
    have member : (other, value) ∈ before ++ found :: after := same ▸ mem_toList_iff.mpr stored
    rcases List.mem_append.mp member with earlier | later
    · have := skipped _ earlier
      rw [passes] at this
      cases this
    · rcases List.mem_cons.mp later with here | later
      · exact congrArg Prod.fst here ▸ String.le_refl other
      · have ascending : Assoc.Ascending (before ++ found :: after) := same ▸ m.ascending
        have behind := (List.pairwise_append.mp ascending).2.1
        exact String.not_lt.mp (String.lt_asymm ((List.pairwise_cons.mp behind).1 _ later))
  constructor
  · intro first
    exact ⟨mem_toList_iff.mp (List.mem_of_find?_eq_some first), List.find?_some first,
      smallest first⟩
  · rintro ⟨stored, passes, least⟩
    cases first : m.toList.find? keep with
    | none =>
      have refused := List.find?_eq_none.mp first _ (mem_toList_iff.mpr stored)
      exact absurd passes refused
    | some found =>
      have found_stored := mem_toList_iff.mp (List.mem_of_find?_eq_some first)
      have same : found.1 = entry.1 := String.le_antisymm (smallest first _ _ stored passes)
        (least _ _ found_stored (List.find?_some first))
      rw [same, stored, Option.some.injEq] at found_stored
      rw [Option.some.injEq]
      exact Prod.ext same found_stored.symm

end SortedMap

/-- Both give a result, or both fail with the same fault. -/
def FailAlike {ε α : Type} (r r' : Except ε α) : Prop :=
  (∃ a a', r = .ok a ∧ r' = .ok a') ∨ ∃ fault, r = .error fault ∧ r' = .error fault

theorem failAlike_of_errors {ε α : Type} {r r' : Except ε α}
    (errors : ∀ fault, r = .error fault ↔ r' = .error fault) : FailAlike r r' := by
  cases first : r with
  | error fault => exact .inr ⟨fault, rfl, (errors fault).mp first⟩
  | ok a =>
    cases second : r' with
    | ok a' => exact .inl ⟨a, a', rfl, rfl⟩
    | error fault => cases first.symm.trans ((errors fault).mpr second)

theorem FailAlike.mapError {ε δ α : Type} {r r' : Except ε α} (alike : FailAlike r r') (f : ε → δ) :
    FailAlike (r.mapError f) (r'.mapError f) := by
  rcases alike with ⟨a, a', rfl, rfl⟩ | ⟨fault, rfl, rfl⟩
  · exact .inl ⟨a, a', rfl, rfl⟩
  · exact .inr ⟨f fault, rfl, rfl⟩

namespace ServiceUnit

variable {u : ServiceUnit} {e e' : Environment} {name value : String} {fault : RenderFault}

/-- A variable that no unit takes, for its name or for its value. -/
def Refused (entry : String × String) : Prop :=
  ¬ IsName entry.1 ∨ ¬ IsPlain entry.2

instance : DecidablePred Refused := fun entry =>
  inferInstanceAs (Decidable (¬ IsName entry.1 ∨ ¬ IsPlain entry.2))

/-- The fault of a variable that is refused. A bad name hides what its value is like. -/
def refusal (name : String) : RenderFault :=
  if IsName name then .badValue name else .badName name

/-- What a user is told about a variable that is refused. -/
def refusalText (name : String) : String :=
  if IsName name then "Environment variable " ++ name ++ " contains control characters"
  else "Invalid environment variable name '" ++ name ++ "'"

theorem message_refusal (name : String) : (refusal name).message = refusalText name := by
  unfold refusal refusalText
  split <;> rfl

theorem chain_refusal (name : String) : (ReconcileFault.render (refusal name)).chain =
    ["Failed to render artifacts: " ++ refusalText name, refusalText name] := by
  rw [← message_refusal]
  rfl

theorem environmentLine_of_refused (refused : Refused (name, value)) :
    environmentLine name value = .error (refusal name) := by
  unfold environmentLine refusal
  by_cases named : IsName name
  · have control : hasControl value = true :=
      eq_true_of_ne_false fun plain =>
        refused.elim (absurd named) (absurd (hasControl_eq_false_iff.mp plain))
    simp only [isVariableName_iff.mpr named, control, named, Bool.not_true, Bool.false_eq_true,
      ↓reduceIte]
  · have unnamed : isVariableName name = false := by
      rw [← Bool.not_eq_true, isVariableName_iff]
      exact named
    simp only [unnamed, named, Bool.not_false, ↓reduceIte]

theorem environmentLine_of_not_refused (accepted : ¬ Refused (name, value)) :
    environmentLine name value = .ok (variableLine (name, value)) := by
  obtain ⟨named, plain⟩ := not_or.mp accepted
  exact environmentLine_eq_ok.mpr ⟨isVariableName_iff.mpr (not_not.mp named),
    hasControl_eq_false_iff.mpr (not_not.mp plain), rfl⟩

/-- The lines of an environment fail with the fault of the first variable that is refused. -/
theorem environmentLines_eq_error : environmentLines e = .error fault ↔
    ∃ entry, e.toList.find? (fun entry => Refused entry) = some entry ∧ fault = refusal entry.1 := by
  change e.toList.mapM (fun entry => environmentLine entry.1 entry.2) = .error fault ↔ _
  induction e.toList with
  | nil => simp [pure, Except.pure]
  | cons entry rest ih =>
    rw [List.mapM_cons, List.find?_cons]
    by_cases refused : Refused entry
    · have line : environmentLine entry.1 entry.2 = .error (refusal entry.1) :=
        environmentLine_of_refused refused
      simp only [line, refused, decide_true, Option.some.injEq, exists_eq_left']
      exact ⟨fun failed => (Except.error.inj failed).symm, fun same => congrArg Except.error same.symm⟩
    · have line : environmentLine entry.1 entry.2 = .ok (variableLine entry) :=
        environmentLine_of_not_refused refused
      simp only [line, refused, decide_false]
      rw [← ih]
      cases rest.mapM fun entry => environmentLine entry.1 entry.2 with
      | error later => exact Iff.rfl
      | ok lines => simp [bind, Except.bind, pure, Except.pure]

/-- An environment has a variable of that name, and it is refused. -/
def Refuses (e : Environment) (name : String) : Prop :=
  ∃ value, e.get? name = some value ∧ (¬ IsName name ∨ ¬ IsPlain value)

/-- The smallest of the names under which variables are refused. -/
structure FirstRefused (e : Environment) (name : String) : Prop where
  refused : Refuses e name
  smallest : ∀ other, Refuses e other → name ≤ other

/-- A unit is not rendered just where a variable is refused, and the first one tells the fault. -/
theorem render_eq_error : u.render = .error fault ↔
    ∃ name, FirstRefused u.environment name ∧ fault = refusal name := by
  have lines : u.render = .error fault ↔ environmentLines u.environment = .error fault := by
    unfold render
    cases environmentLines u.environment with
    | error other => simp [bind, Except.bind]
    | ok lines => simp [bind, Except.bind, pure, Except.pure]
  rw [lines, environmentLines_eq_error]
  constructor
  · rintro ⟨⟨name, value⟩, first, rfl⟩
    obtain ⟨stored, refused, smallest⟩ := SortedMap.find?_toList_eq_some_iff.mp first
    refine ⟨name, ⟨⟨value, stored, of_decide_eq_true refused⟩, ?_⟩, rfl⟩
    rintro other ⟨v, among, bad⟩
    exact smallest other v among (decide_eq_true bad)
  · rintro ⟨name, ⟨⟨value, stored, refused⟩, smallest⟩, rfl⟩
    refine ⟨(name, value), SortedMap.find?_toList_eq_some_iff.mpr
      ⟨stored, decide_eq_true refused, ?_⟩, rfl⟩
    intro other v among bad
    exact smallest other ⟨v, among, of_decide_eq_true bad⟩

/-- Two environments with the same names in which, name by name, either both values hold a control
character or neither does. -/
structure SameShape (e e' : Environment) : Prop where
  names : e.names = e'.names
  plain : ∀ name value value', e.get? name = some value → e'.get? name = some value' →
    (IsPlain value ↔ IsPlain value')

theorem SameShape.symm (same : SameShape e e') : SameShape e' e :=
  ⟨same.names.symm, fun name value value' stored stored' =>
    (same.plain name value' value stored' stored).symm⟩

theorem SameShape.refuses (same : SameShape e e') (refuses : Refuses e name) : Refuses e' name := by
  obtain ⟨value, stored, refused⟩ := refuses
  have listed : name ∈ e'.names :=
    same.names ▸ List.mem_map.mpr ⟨(name, value), SortedMap.mem_toList_iff.mpr stored, rfl⟩
  obtain ⟨⟨_, value'⟩, member, rfl⟩ := List.mem_map.mp listed
  have stored' := SortedMap.mem_toList_iff.mp member
  exact ⟨value', stored', refused.imp_right fun controlled plain =>
    controlled ((same.plain _ value value' stored stored').mpr plain)⟩

theorem SameShape.firstRefused (same : SameShape e e') (first : FirstRefused e name) :
    FirstRefused e' name :=
  ⟨same.refuses first.refused, fun other refuses => first.smallest other (same.symm.refuses refuses)⟩

/-- Units differ in a fault only where their environments differ in shape. -/
theorem render_eq_error_of_sameShape {u' : ServiceUnit}
    (same : SameShape u.environment u'.environment) (failed : u.render = .error fault) :
    u'.render = .error fault := by
  obtain ⟨name, first, rfl⟩ := render_eq_error.mp failed
  exact render_eq_error.mpr ⟨name, same.firstRefused first, rfl⟩

end ServiceUnit

namespace Service

open ServiceUnit

variable {s : Service} {e e' : Environment} {config : Config} {fault : RenderFault}

/-- The files of a service fail with the fault of the unit, or else with that of the settings. -/
theorem render_eq_error : s.render e config = .error fault ↔
    (s.unit e).render = .error fault ∨
      (∃ text, (s.unit e).render = .ok text) ∧ config.settings = .error fault := by
  unfold render
  cases (s.unit e).render with
  | error other => simp [bind, Except.bind]
  | ok text => cases config.settings <;> simp [bind, Except.bind, pure, Except.pure]

theorem render_eq_error_of_sameShape (same : SameShape e e')
    (failed : s.render e config = .error fault) : s.render e' config = .error fault := by
  apply render_eq_error.mpr
  rcases render_eq_error.mp failed with unit | ⟨⟨text, rendered⟩, settings⟩
  · have shape : SameShape (s.unit e).environment (s.unit e').environment := same
    exact .inl (ServiceUnit.render_eq_error_of_sameShape shape unit)
  · cases unit : (s.unit e').render with
    | ok text => exact .inr ⟨⟨text, rfl⟩, settings⟩
    | error other =>
      have shape : SameShape (s.unit e').environment (s.unit e).environment := same.symm
      cases rendered.symm.trans (ServiceUnit.render_eq_error_of_sameShape shape unit)

/-- A fault of a unit is that of the smallest name under which a variable is refused, a bad name before
a bad value. So environments of the same shape let a unit and the files of a service be rendered both,
or fail both with one fault, and a reconciliation that cannot render is the same for both. -/
theorem faults_reveal_no_value (same : SameShape e e') :
    (∀ (u : ServiceUnit) (fault : RenderFault), u.render = .error fault ↔
        ∃ name, FirstRefused u.environment name ∧ fault = refusal name) ∧
      (∀ name, (refusal name).message = refusalText name ∧
        (ReconcileFault.render (refusal name)).chain =
          ["Failed to render artifacts: " ++ refusalText name, refusalText name]) ∧
      (∀ u u' : ServiceUnit, u.environment = e → u'.environment = e' → FailAlike u.render u'.render) ∧
      (∀ (s : Service) (config : Config), FailAlike ((s.render e config).mapError ReconcileFault.render)
        ((s.render e' config).mapError ReconcileFault.render)) ∧
      ∀ (s : Service) (config : Config) (trigger : Trigger) (fault : RenderFault),
        s.render e config = .error fault →
          s.reconcile e config trigger = s.reconcile e' config trigger := by
  refine ⟨fun u fault => ServiceUnit.render_eq_error, fun name => ⟨message_refusal name,
    chain_refusal name⟩, ?_, ?_, ?_⟩
  · rintro u u' rfl rfl
    exact failAlike_of_errors fun fault => ⟨ServiceUnit.render_eq_error_of_sameShape same,
      ServiceUnit.render_eq_error_of_sameShape same.symm⟩
  · intro s config
    exact (failAlike_of_errors fun fault => ⟨render_eq_error_of_sameShape same,
      render_eq_error_of_sameShape same.symm⟩).mapError ReconcileFault.render
  · intro s config trigger fault failed
    unfold reconcile reconcileOnce
    rw [failed, render_eq_error_of_sameShape same failed]

/-- Environments with the same token, spoilt in two ways. -/
def spoiltTokens : Environment × Environment :=
  (.ofList [("MODE", "standalone"), ("TOKEN", "hunter2\n"), ("ZONE 1", "eu")],
    .ofList [("MODE", "cluster"), ("TOKEN", "\x00"), ("ZONE 1", "us")])

theorem sameShape_spoiltTokens : SameShape spoiltTokens.1 spoiltTokens.2 := by
  refine ⟨by decide, fun name value value' stored stored' => ?_⟩
  have among : (name, value) ∈ [("MODE", "standalone"), ("TOKEN", "hunter2\n"), ("ZONE 1", "eu")] :=
    SortedMap.mem_toList_iff.mpr stored
  have among' : (name, value') ∈ [("MODE", "cluster"), ("TOKEN", "\x00"), ("ZONE 1", "us")] :=
    SortedMap.mem_toList_iff.mpr stored'
  simp only [List.mem_cons, Prod.mk.injEq, List.not_mem_nil, or_false] at among among'
  rcases among with ⟨rfl, rfl⟩ | ⟨rfl, rfl⟩ | ⟨rfl, rfl⟩ <;>
    rcases among' with ⟨named, rfl⟩ | ⟨named, rfl⟩ | ⟨named, rfl⟩ <;> revert named <;> decide

open Reconciliation in
/-- Both fail with the fault of the token, not with that of the name behind it. -/
theorem faults_reveal_no_token :
    SameShape spoiltTokens.1 spoiltTokens.2 ∧
      (installation.service.unit spoiltTokens.1).render = .error (.badValue "TOKEN") ∧
      (installation.service.unit spoiltTokens.2).render = .error (.badValue "TOKEN") := by
  have first : (installation.service.unit spoiltTokens.1).render = .error (.badValue "TOKEN") := by
    decide +kernel
  obtain ⟨-, -, units, -⟩ := faults_reveal_no_value sameShape_spoiltTokens
  refine ⟨sameShape_spoiltTokens, first, ?_⟩
  rcases units (installation.service.unit spoiltTokens.1) (installation.service.unit spoiltTokens.2)
    rfl rfl with ⟨text, _, rendered, -⟩ | ⟨fault, failed, failed'⟩
  · cases first.symm.trans rendered
  · cases first.symm.trans failed
    exact failed'

end Service

end Upkeep
