import DualStack.Config.Validation

/-!
# Errors of the pipeline

What a run reports: a store that could not be read or written, an entity that failed
validation, an ECMP group whose network does not parse, and a table outside the configuration
that could not be read.
-/

set_option autoImplicit false

namespace DualStack

/-- An error of a run. -/
inductive PipelineError where
  | storeUnavailable (failure : Failure)
  | validation (error : ValidationError)
  | malformedNetwork (family : Family) (group networkText reason : String)
  | unreachable (collaborator message : String)
deriving DecidableEq, Repr

namespace PipelineError

/-- The wording of an error. -/
def message : PipelineError → String
  | storeUnavailable failure => s!"Store unavailable: {failure.message}"
  | validation error => s!"Validation failed: {error.text}"
  | malformedNetwork family group networkText reason =>
    s!"Malformed {family.name} prefix {Text.quoted networkText} in ECMP group {group}: {reason}"
  | unreachable collaborator message => s!"{collaborator} unreachable: {message}"

/-- Whether the error is a store that could not be used. -/
def isStoreUnavailable : PipelineError → Bool
  | storeUnavailable _ => true
  | _ => false

end PipelineError

end DualStack
