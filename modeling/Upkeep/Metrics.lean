import Upkeep.Decimal.Shortest
import Upkeep.SortedMap

/-! Metrics: counters of what has been done, a histogram of how long reconciliations took, and
the text in which monitoring collects them. Families are written in the order of their names. -/
namespace Upkeep

/-- Something that is counted. -/
inductive Counter where
  | reconciliations
  | skipped
  | applied
  | errors
  | artifactsWritten
  /-- A command to the service manager, by its label. -/
  | command (label : String)
  /-- A command that failed. -/
  | commandError (label : String)
  deriving DecidableEq, Repr

/-- What has been counted and measured. -/
structure Metrics where
  reconciliations : Nat := 0
  skipped : Nat := 0
  applied : Nat := 0
  errors : Nat := 0
  artifactsWritten : Nat := 0
  /-- Commands to the service manager by label. -/
  commands : SortedMap Nat := ∅
  /-- Failed commands by label. -/
  commandErrors : SortedMap Nat := ∅
  /-- How long reconciliations took, in seconds. -/
  durations : List Binary64 := []

namespace Metrics

instance : EmptyCollection Metrics := ⟨{}⟩

/-- Counts one more under a label. -/
def countLabel (counts : SortedMap Nat) (label : String) : SortedMap Nat :=
  counts.insert label ((counts.get? label).getD 0 + 1)

/-- Counts one more. -/
def count (m : Metrics) : Counter → Metrics
  | .reconciliations => { m with reconciliations := m.reconciliations + 1 }
  | .skipped => { m with skipped := m.skipped + 1 }
  | .applied => { m with applied := m.applied + 1 }
  | .errors => { m with errors := m.errors + 1 }
  | .artifactsWritten => { m with artifactsWritten := m.artifactsWritten + 1 }
  | .command label => { m with commands := countLabel m.commands label }
  | .commandError label => { m with commandErrors := countLabel m.commandErrors label }

/-- How often something has been counted. -/
def counted (m : Metrics) : Counter → Nat
  | .reconciliations => m.reconciliations
  | .skipped => m.skipped
  | .applied => m.applied
  | .errors => m.errors
  | .artifactsWritten => m.artifactsWritten
  | .command label => (m.commands.get? label).getD 0
  | .commandError label => (m.commandErrors.get? label).getD 0

/-- Counting one thing changes no other count. -/
theorem counted_count (m : Metrics) (c d : Counter) :
    (m.count c).counted d = m.counted d + if c = d then 1 else 0 := by
  cases c <;> cases d <;> simp [count, counted, countLabel]
  all_goals
    split
    · simp_all
    · simp

/-- Takes in how long a reconciliation took. -/
def observe (m : Metrics) (seconds : Binary64) : Metrics :=
  { m with durations := m.durations ++ [seconds] }

/-- The upper bounds of the buckets and how they are written. -/
def bounds : List (String × Binary64) :=
  let bound (digits : Nat) (exponent : Int) := Binary64.ofDecimal false digits exponent
  [("0.01", bound 1 (-2)), ("0.05", bound 5 (-2)), ("0.1", bound 1 (-1)), ("0.5", bound 5 (-1)),
    ("1", bound 1 0), ("5", bound 5 0), ("30", bound 30 0)]

/-- The number of durations up to a bound. -/
def upTo (m : Metrics) (bound : Binary64) : Nat :=
  m.durations.countP fun seconds => seconds.atMost bound

/-- The sum of the durations. -/
def total (m : Metrics) : Binary64 :=
  ⟨(m.durations.foldl (fun sum seconds => sum + Float.ofBits seconds.bits) 0).toBits⟩

/-- A character of a label between quotes. -/
def escaped (c : Char) : List Char :=
  if c = '\\' then ['\\', '\\']
  else if c = '"' then ['\\', '"']
  else if c = '\n' then ['\\', 'n']
  else [c]

/-- The name of a sample with its one label. -/
def labelled (name label value : String) : String :=
  name ++ "\x7b" ++ label ++ "=\"" ++ String.ofList (value.toList.flatMap escaped) ++ "\"\x7d"

/-- Samples that belong together. -/
structure Family where
  name : String
  help : String
  kind : String
  /-- The samples with their values, as they are written. -/
  samples : List (String × String)

/-- A family of a single counter. -/
def counterFamily (name help : String) (value : Nat) : Family :=
  ⟨name, help, "counter", [(name, toString value)]⟩

/-- A family of counters by command. -/
def commandFamily (name help : String) (counts : SortedMap Nat) : Family :=
  ⟨name, help, "counter",
    counts.toList.map fun (label, value) => (labelled name "command" label, toString value)⟩

/-- The name of the histogram. -/
def durationName : String := "service_reconciler_reconciliation_duration_seconds"

/-- The family of the histogram. -/
def durationFamily (m : Metrics) : Family :=
  let bucket (bound : String) (value : Nat) :=
    (labelled (durationName ++ "_bucket") "le" bound, toString value)
  let count := m.durations.length
  ⟨durationName, "Duration of reconciliation in seconds", "histogram",
    bounds.map (fun (text, bound) => bucket text (m.upTo bound)) ++
    [bucket "+Inf" count, (durationName ++ "_sum", m.total.positional),
      (durationName ++ "_count", toString count)]⟩

/-- All families in the order of their names. -/
def families (m : Metrics) : List Family :=
  [counterFamily "service_reconciler_artifacts_written_total"
      "Total number of artifacts rewritten because their content changed" m.artifactsWritten,
    m.durationFamily,
    counterFamily "service_reconciler_reconciliation_errors_total"
      "Total number of reconciliation errors" m.errors,
    counterFamily "service_reconciler_reconciliations_applied_total"
      "Total number of reconciliations that changed artifacts and restarted the service" m.applied,
    counterFamily "service_reconciler_reconciliations_skipped_total"
      "Total number of reconciliations skipped for no-op triggers" m.skipped,
    counterFamily "service_reconciler_reconciliations_total"
      "Total number of reconciliations" m.reconciliations,
    commandFamily "service_reconciler_service_command_errors_total"
      "Total number of failed service manager commands by command" m.commandErrors,
    commandFamily "service_reconciler_service_commands_total"
      "Total number of service manager commands by command" m.commands]

/-- The samples with their values. -/
def samples (m : Metrics) : List (String × String) :=
  m.families.flatMap Family.samples

namespace Family

/-- The lines of a family; one without samples has none. -/
def lines (f : Family) : List String :=
  if f.samples.isEmpty then []
  else
    ("# HELP " ++ f.name ++ " " ++ f.help) :: ("# TYPE " ++ f.name ++ " " ++ f.kind) ::
      f.samples.map fun (name, value) => name ++ " " ++ value

end Family

/-- The text of the metrics. -/
def text (m : Metrics) : String :=
  String.join ((m.families.flatMap Family.lines).map (· ++ "\n"))

end Metrics

end Upkeep
