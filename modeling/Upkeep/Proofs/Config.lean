import Upkeep.Config

/-! The desired configuration, name by name. What this library decides goes over what the operator
set, and only where there is something to decide: standbys if there are any, servers for tests in
the staging environment alone. An operator may use the same names; nothing of the operator's is
lost under any other. -/
namespace Upkeep.Config

variable {operator : Config} {database : Database} {environment : Environment} {name : String}

/-- What the desired configuration shall say of a name. -/
def expected (operator : Config) (database : Database) (environment : Environment)
    (name : String) : Option Yaml.Value :=
  if name = "maindb" then some (.text database.primary)
  else if name = "standbys_urls" ∧ database.standbys ≠ [] then
    some (.sequence (database.standbys.map .text))
  else if name = "ssoBaseURL" ∧ environment.get? "SERVICE_ENVIRONMENT" = some "staging" then
    some (.text "https://login.staging.ubuntu.com/api/v2/")
  else if name = "storeBaseURL" ∧ environment.get? "SERVICE_ENVIRONMENT" = some "staging" then
    some (.text "https://dashboard.staging.snapcraft.io/dev/api")
  else operator.get? name

/-- Where something is decided under a name. -/
def Decides (database : Database) (environment : Environment) (name : String) : Prop :=
  name = "maindb" ∨ (name = "standbys_urls" ∧ database.standbys ≠ []) ∨
    (name = "ssoBaseURL" ∨ name = "storeBaseURL") ∧
      environment.get? "SERVICE_ENVIRONMENT" = some "staging"

/-- The names under which something may be decided. -/
def builderNames : List String :=
  ["maindb", "standbys_urls", "ssoBaseURL", "storeBaseURL"]

theorem mem_builderNames (decides : Decides database environment name) : name ∈ builderNames := by
  rcases decides with rfl | ⟨rfl, -⟩ | ⟨rfl | rfl, -⟩ <;> decide

/-- The operator's value is expected wherever nothing is decided. -/
theorem expected_of_not_decides (free : ¬ Decides database environment name) :
    expected operator database environment name = operator.get? name := by
  simp only [Decides, not_or, or_and_right] at free
  obtain ⟨main, standbys, signOn, store⟩ := free
  rw [expected, if_neg main, if_neg standbys, if_neg signOn, if_neg store]

/-- The desired configuration says what is expected. The four names differ, so the order in which
they are set does not matter. -/
theorem get?_desired (operator : Config) (database : Database) (environment : Environment)
    (name : String) :
    (desired operator database environment).get? name =
      expected operator database environment name := by
  have alone : database.standbys.isEmpty = true ↔ database.standbys = [] := List.isEmpty_iff
  have test : environment.deployment? = some stagingName ↔
      environment.get? "SERVICE_ENVIRONMENT" = some "staging" := Iff.rfl
  unfold desired decided expected
  simp only [alone, test, SortedMap.get?_insertAll]
  by_cases standbys : database.standbys = [] <;>
    by_cases staging : environment.get? "SERVICE_ENVIRONMENT" = some "staging" <;>
    simp only [standbys, staging, if_true, if_false, List.cons_append, List.nil_append, List.append_nil,
      List.reverse_cons, List.reverse_nil, Assoc.find?, mainDatabaseKey, standbysKey, signOnKey, storeKey,
      stagingSignOn, stagingStore] <;>
    grind

/-- The primary database stands under its key, whatever the operator's configuration says. -/
theorem mainDatabase_desired (operator : Config) (database : Database) (environment : Environment) :
    (desired operator database environment).get? mainDatabaseKey = some (.text database.primary) := by
  rw [get?_desired]
  exact if_pos rfl

/-- What is decided depends on the database and the environment alone, so deciding it once more
changes nothing. -/
theorem desired_desired (operator : Config) (database : Database) (environment : Environment) :
    desired (desired operator database environment) database environment =
      desired operator database environment :=
  SortedMap.insertAll_insertAll_self operator (decided database environment)

/-- The desired configuration is what is expected, name by name. It differs from the operator's only
where something is decided, so under four names at most; its names ascend, each of them once; and
deciding once more changes nothing. -/
theorem desired_name_by_name (operator : Config) (database : Database) (environment : Environment) :
    (∀ name, (desired operator database environment).get? name =
        expected operator database environment name) ∧
      (∀ name, (desired operator database environment).get? name ≠ operator.get? name →
        Decides database environment name) ∧
      (∀ name ∉ builderNames,
        (desired operator database environment).get? name = operator.get? name) ∧
      (desired operator database environment).names.Pairwise (· < ·) ∧
      desired (desired operator database environment) database environment =
        desired operator database environment := by
  have differs (name : String)
      (different : (desired operator database environment).get? name ≠ operator.get? name) :
      Decides database environment name := by
    apply Classical.byContradiction
    intro free
    exact different (by rw [get?_desired, expected_of_not_decides free])
  refine ⟨get?_desired operator database environment, differs, ?_, ?_, ?_⟩
  · intro name other
    apply Classical.byContradiction
    intro different
    exact other (mem_builderNames (differs name different))
  · exact List.pairwise_map.mpr (desired operator database environment).ascending
  · exact desired_desired operator database environment

end Upkeep.Config
