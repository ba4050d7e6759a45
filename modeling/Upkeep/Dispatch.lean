import Upkeep.SortedMap

/-! Which handlers run for a set of active flags. A table lists rules; each rule names the flags
that have to be active for its handler and those that must not be. -/
namespace Upkeep

/-- A set of flags that are active, kept in ascending order. -/
abbrev ActiveFlags := SortedMap Unit

namespace ActiveFlags

/-- The set of some flags. -/
def ofNames (names : List String) : ActiveFlags :=
  SortedMap.ofList (names.map (·, ()))

/-- Adds flags to a set. -/
def addAll (active : ActiveFlags) (names : List String) : ActiveFlags :=
  active.insertAll (names.map (·, ()))

end ActiveFlags

/-- A handler and the flags that decide whether it runs. -/
structure Rule (Handler : Type) where
  /-- What runs. -/
  handler : Handler
  /-- Flags that all have to be active. -/
  requires : List String
  /-- Flags of which none may be active. -/
  forbids : List String
  deriving DecidableEq, Repr

namespace Rule

/-- Whether the flags let the handler run. -/
def holds {Handler : Type} (rule : Rule Handler) (active : ActiveFlags) : Bool :=
  (rule.requires.all fun flag => active.contains flag) &&
    !(rule.forbids.any fun flag => active.contains flag)

end Rule

/-- Rules, in the order in which their handlers run. -/
structure DispatchTable (Handler : Type) where
  /-- The rules. -/
  rules : List (Rule Handler)
  deriving DecidableEq, Repr

namespace DispatchTable

variable {Handler : Type}

instance : EmptyCollection (DispatchTable Handler) := ⟨⟨[]⟩⟩

/-- Adds a rule with flags that must not be active. -/
def whenNot (t : DispatchTable Handler) (requires forbids : List String) (handler : Handler) :
    DispatchTable Handler :=
  ⟨t.rules ++ [⟨handler, requires, forbids⟩]⟩

/-- Adds a rule that forbids nothing. -/
def when (t : DispatchTable Handler) (requires : List String) (handler : Handler) :
    DispatchTable Handler :=
  t.whenNot requires [] handler

/-- The handlers that run, in the order of their rules. -/
def ready (t : DispatchTable Handler) (active : ActiveFlags) : List Handler :=
  (t.rules.filter fun rule => rule.holds active).map Rule.handler

/-- The number of rules. -/
def size (t : DispatchTable Handler) : Nat :=
  t.rules.length

/-- Whether there is no rule. -/
def isEmpty (t : DispatchTable Handler) : Bool :=
  t.rules.isEmpty

end DispatchTable

end Upkeep
