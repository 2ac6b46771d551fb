import Gleaner.Search.Finder
/-!
# Traces of searches

A traced search records every node it visits, in order, and what happened there. It stops at the
node where the search fails.
-/
namespace Gleaner

structure Step where
  ordinal : Nat
  depth : Nat
  kind : Kind
  outcome : Outcome
  deriving DecidableEq, Repr

/-- The record of a search. -/
structure FindTrace where
  predicate : String
  result : Except FindError (List String)
  steps : List Step

namespace FindTrace

def count (t : FindTrace) (o : Outcome) : Nat := t.steps.countP (·.outcome == o)

def maxDepth? (t : FindTrace) : Option Nat := (t.steps.map (·.depth)).max?

end FindTrace

namespace Finder

/-- Visits places one after another; `found` and `steps` hold what was found and recorded at the
places before, the last of it first, and `ordinal` counts those places. -/
def record (f : Finder) (ordinal : Nat) (found : List String) (steps : List Step) :
    List Place → Except FindError (List String) × List Step
  | [] => (.ok found.reverse, steps.reverse)
  | p :: rest =>
    let step : Step := ⟨ordinal, p.depth, p.node.kind, (f.visit p).outcome⟩
    match f.visit p with
    | .found text => f.record (ordinal + 1) (text :: found) (step :: steps) (p.open rest)
    | .passed _ => f.record (ordinal + 1) found (step :: steps) (p.open rest)
    | .stopped error _ => (.error error, (step :: steps).reverse)
termination_by pending => Place.weight pending
decreasing_by all_goals exact Place.weight_open p rest

/-- Searches a document and records every visit. -/
def trace (f : Finder) (root : Node) : FindTrace :=
  let (result, steps) := f.record 0 [] [] [⟨0, root⟩]
  ⟨f.predicate.name, result, steps⟩

end Finder

end Gleaner
