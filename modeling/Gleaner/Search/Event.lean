import Gleaner.Predicate.Check
/-!
# Events

What can end a search, and what searches and schema loading report as they end: a search says how
many nodes it visited, a schema how many types it has.
-/
namespace Gleaner

inductive FindError where
  | predicateFailure (predicate : String) (depth : Nat) (source : Failure)
  | depthExceeded (depth max : Nat)
  deriving DecidableEq, Repr

def FindError.message : FindError → String
  | .predicateFailure predicate depth source =>
    "predicate \"" ++ predicate ++ s!"\" failed on a value at depth {depth}: " ++ source.message
  | .depthExceeded depth max =>
    s!"document nesting reaches depth {depth}, but maximum allowed is {max}"

inductive Event where
  | findSuccess (predicate : String) (visited matched : Nat)
  | findFailure (predicate : String) (visited : Nat) (error : FindError)
  | schemaLoaded (types maxDepth : Nat)

end Gleaner
