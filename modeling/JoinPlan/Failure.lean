import JoinPlan.Criteria.Cast

/-!
# Failures

The causes for which attaching a model or looking something up fails, and the common form in
which they are reported: a class, an origin and a message.
-/

namespace JoinPlan

/-! ### Reports -/

/-- The sort of a failure. -/
inductive ErrorClass where
  | conflict
  | invariantViolation
  | notFound
  | unsupported
deriving DecidableEq, Repr

/-- The name of a sort. -/
def ErrorClass.label : ErrorClass → String
  | .conflict => "conflict"
  | .invariantViolation => "invariant_violation"
  | .notFound => "not_found"
  | .unsupported => "unsupported"

/-- The part in which a failure arises. -/
inductive ErrorOrigin where
  | config
  | criteria
  | registry
deriving DecidableEq, Repr

/-- The name of a part. -/
def ErrorOrigin.label : ErrorOrigin → String
  | .config => "config"
  | .criteria => "criteria"
  | .registry => "registry"

/-- A failure as it is reported. -/
structure Report where
  errorClass : ErrorClass
  origin : ErrorOrigin
  message : String
deriving DecidableEq, Repr

namespace Report

/-- Whether something asked for does not exist. -/
def isNotFound (report : Report) : Bool :=
  report.errorClass = .notFound

/-- Origin, class and message in one line. -/
def display (report : Report) : String :=
  let origin := report.origin.label
  let name := report.errorClass.label
  let message := report.message
  s!"{origin}:{name}: {message}"

end Report

/-! ### Causes -/

/-- Why a registry refuses. -/
inductive RegistryError where
  | alreadyAttached (entity : String)
  | emptyEntityName
  | notAttached (entity : String)
deriving DecidableEq, Repr

namespace RegistryError

/-- The sort of an error. -/
def errorClass : RegistryError → ErrorClass
  | .alreadyAttached _ => .conflict
  | .emptyEntityName => .invariantViolation
  | .notAttached _ => .notFound

/-- The wording of an error. -/
def message : RegistryError → String
  | .alreadyAttached entity => s!"entity '{entity}' already attached"
  | .emptyEntityName => "entity name is empty"
  | .notAttached entity => s!"entity '{entity}' not attached"

end RegistryError

/-- Why something fails: criteria that cannot be cast, settings that cannot be read, or a refusal
by the registry. -/
inductive Failure where
  | criteria (error : CastError)
  | settings
  | registry (error : RegistryError)

/-- How a failure is reported. -/
def Failure.report : Failure → Report
  | .criteria error => ⟨.unsupported, .criteria, error.message⟩
  | .settings => ⟨.unsupported, .config, "invalid attach config:"⟩
  | .registry error => ⟨error.errorClass, .registry, error.message⟩

end JoinPlan
