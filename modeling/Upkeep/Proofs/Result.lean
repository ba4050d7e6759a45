/-! Steps that may fail: a result comes from results all the way. -/
namespace Upkeep

namespace Result

variable {ε δ α β : Type} {result : Except ε α} {a : α}

theorem bind_eq_ok {next : α → Except ε β} {b : β} :
    (result >>= next) = .ok b ↔ ∃ a, result = .ok a ∧ next a = .ok b := by
  cases result with
  | error fault => exact ⟨nofun, nofun⟩
  | ok a =>
    constructor
    · exact fun later => ⟨a, rfl, later⟩
    · rintro ⟨_, same, later⟩
      cases same
      exact later

theorem mapError_eq_ok {f : ε → δ} : result.mapError f = .ok a ↔ result = .ok a := by
  cases result with
  | error fault => exact ⟨nofun, nofun⟩
  | ok found => exact ⟨fun same => congrArg _ (Except.ok.inj same), fun same => congrArg _ (Except.ok.inj same)⟩

theorem map_eq_error {f : α → β} {e : ε} : result.map f = .error e ↔ result = .error e := by
  cases result with
  | error fault => exact ⟨fun same => congrArg _ (Except.error.inj same), fun same => congrArg _ (Except.error.inj same)⟩
  | ok found => exact ⟨nofun, nofun⟩

theorem map_eq_ok {f : α → β} {b : β} : result.map f = .ok b ↔ ∃ a, result = .ok a ∧ f a = b := by
  cases result with
  | error fault => exact ⟨nofun, nofun⟩
  | ok found =>
    constructor
    · exact fun same => ⟨found, rfl, Except.ok.inj same⟩
    · rintro ⟨_, same, rfl⟩
      cases same
      rfl

theorem toOption_eq_some : result.toOption = some a ↔ result = .ok a := by
  cases result with
  | error fault => exact ⟨nofun, nofun⟩
  | ok found => exact ⟨fun same => congrArg _ (Option.some.inj same), fun same => congrArg _ (Except.ok.inj same)⟩

end Result

end Upkeep
