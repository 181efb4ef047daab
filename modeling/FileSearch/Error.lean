import FileSearch.Json.Fault
import FileSearch.Path.Scope

set_option autoImplicit false

namespace FileSearch

inductive FilterError where
  | emptyGroup (group : Nat)
  | badFilter (group : Nat) (fault : Fault)
  | badPath (cause : PathError)
  deriving Repr, DecidableEq

def FilterError.message : FilterError → String
  | .emptyGroup group => "filter group " ++ group.repr ++ " has no filters"
  | .badFilter group fault => "filter group " ++ group.repr ++ ": " ++ fault.message
  | .badPath cause => cause.message

inductive SearchError where
  | rejectedConcurrent
  | backendStartFailure (reason : String)
  | invalidFilter (cause : FilterError)
  | io (reason : String)
  | serialization (fault : Fault)
  | internal (reason : String)
  deriving Repr, DecidableEq

def SearchError.message : SearchError → String
  | .rejectedConcurrent => "another search is already in progress"
  | .backendStartFailure reason => "search backend refused to start: " ++ reason
  | .invalidFilter cause => "invalid filter: " ++ cause.message
  | .io reason => "IO error: " ++ reason
  | .serialization fault => "Serialization error: " ++ fault.message
  | .internal reason => "Internal error: " ++ reason

end FileSearch
