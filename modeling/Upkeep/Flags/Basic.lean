import Upkeep.SortedMap

/-! Flags: named truth values that outlive a run. A flag that was never set reads as unset. -/
namespace Upkeep

/-- Flags by name. -/
abbrev Flags := SortedMap Bool

namespace Flags

/-- The flags with some names set. -/
def ofNames (names : List String) : Flags :=
  SortedMap.ofList (names.map (·, true))

/-- Whether a flag is set. -/
def isSet (flags : Flags) (name : String) : Bool :=
  (flags.get? name).getD false

theorem isSet_insert (flags : Flags) (name other : String) (value : Bool) :
    isSet (flags.insert name value) other = if name = other then value else flags.isSet other := by
  unfold isSet
  rw [SortedMap.get?_insert]
  split <;> rfl

/-- The names of the flags that are set, in ascending order. -/
def active (flags : Flags) : List String :=
  (flags.toList.filter (·.2)).map (·.1)

/-- The flag that says that the service has been configured and started once. -/
def configured : String := "service.configured"

/-- The flag that says that a restart is still to be done. -/
def restartPending : String := "service.restart-pending"

/-- The flag that says that the unit definitions are still to be reloaded. -/
def reloadPending : String := "service.reload-pending"

/-- The flag that says that the base of the system is configured. -/
def baseConfigured : String := "ols.configured"

/-- The flag that says that there is a primary database. -/
def databaseAvailable : String := "db.master.available"

@[simp]
theorem restartPending_ne_reloadPending : restartPending ≠ reloadPending := by
  decide

@[simp]
theorem restartPending_ne_configured : restartPending ≠ configured := by
  decide

@[simp]
theorem reloadPending_ne_configured : reloadPending ≠ configured := by
  decide

end Flags

/-- How far the maintenance of the service has come. -/
inductive Progress where
  | notConfigured
  | configured
  deriving DecidableEq, Repr

namespace Progress

/-- The progress that the service's own flag tells. -/
def ofFlag (isConfigured : Bool) : Progress :=
  if isConfigured then .configured else .notConfigured

end Progress

end Upkeep
