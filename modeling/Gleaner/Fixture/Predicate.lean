import Gleaner.Schema.Load
import Gleaner.Schema.Yaml
/-!
# Predicates of fixtures

Fixtures write predicates in a short notation, where the name of a field tells what kind of
predicate it is. The notation is tried as each kind in turn, and the first that fits is taken; names
that a kind does not know are passed over. Building the constraint needs no registry.
-/
namespace Gleaner

inductive FixturePredicate where
  | allOf (predicates : List FixturePredicate)
  | anyOf (predicates : List FixturePredicate)
  | not (predicate : FixturePredicate)
  | length (bounds : CodepointLength)
  | oneOf (values : List String)
  | lookup (table : LookupConfig)
  | acceptAll (accepts : Bool)
  | matching (spec : MatchSpec)

namespace FixturePredicate

mutual
/-- The constraint that a predicate stands for. There is none if a length has no bound or a pattern
cannot be used. -/
def build? : FixturePredicate → Option Constraint
  | .allOf ps => (buildAll? ps).map .allOf
  | .anyOf ps => (buildAll? ps).map .anyOf
  | .not p => (build? p).map .not
  | .length bounds =>
    if bounds.min.isNone && bounds.max.isNone then none else some (.ofCheck bounds.check)
  | .oneOf values => some (.ofCheck (ValidValues.ofList values).check)
  | .lookup table => some (.ofCheck (Lookup.ofLists table.accepted table.rejected).check)
  | .acceptAll accepts =>
    let c := Constraint.ofCheck .acceptAll
    some (if accepts then c else .not c)
  | .matching spec => match spec.matcher with
    | .ok m => some (.ofCheck m.check)
    | .error _ => none
def buildAll? : List FixturePredicate → Option (List Constraint)
  | [] => some []
  | p :: rest => do return (← build? p) :: (← buildAll? rest)
end

variable {σ : Type} [Yaml.Legible σ]

/-- A bound on lengths, which may be absent or null. -/
def bound? : Option (Yaml σ) → Option (Option Nat)
  | none => some none
  | some (.scalar s) => match Yaml.Legible.atom? s with
    | some .null => some none
    | some (.int n) => if 0 ≤ n then some (some n.toNat) else none
    | _ => none
  | some _ => none

def length? (y : Yaml σ) : Option CodepointLength := do
  let found ← y.fields? ["min", "max"]
  return ⟨← bound? (found.lookup "min"), ← bound? (found.lookup "max")⟩

def texts? : Option (Yaml σ) → Option (List String)
  | none => some []
  | some y => y.strings?

def lookup? (y : Yaml σ) : Option LookupConfig := do
  let found ← y.fields? ["accept", "reject"]
  return ⟨← texts? (found.lookup "accept"), ← texts? (found.lookup "reject")⟩

def readLeaf (y : Yaml σ) : Option FixturePredicate :=
  (((y.only? "length").bind length?).map .length) <|>
  (((y.only? "one_of").bind Yaml.strings?).map .oneOf) <|>
  (((y.only? "lookup").bind lookup?).map .lookup) <|>
  (((y.only? "accept_all").bind Yaml.bool?).map .acceptAll) <|>
  ((MatchSpec.ofYaml? y).map .matching)

mutual
/-- Reads a predicate as the first kind that fits. -/
def read (y : Yaml σ) : Option FixturePredicate :=
  (match _h : y.only? "all_of" with
    | some (.sequence items) => (readAll items).map .allOf
    | _ => none) <|>
  (match _h : y.only? "any_of" with
    | some (.sequence items) => (readAll items).map .anyOf
    | _ => none) <|>
  (match _h : y.only? "not" with
    | some v => (read v).map .not
    | none => none) <|>
  readLeaf y
termination_by sizeOf y
decreasing_by
  · have := Yaml.sizeOf_only _h
    simp only [Yaml.sequence.sizeOf_spec] at this
    omega
  · have := Yaml.sizeOf_only _h
    simp only [Yaml.sequence.sizeOf_spec] at this
    omega
  · exact Yaml.sizeOf_only _h
def readAll (ys : List (Yaml σ)) : Option (List FixturePredicate) :=
  match ys with
  | [] => some []
  | y :: rest => do return (← read y) :: (← readAll rest)
termination_by sizeOf ys
end

/-- Reads a predicate. All of it must have a settled value. -/
def ofYaml? (y : Yaml σ) : Option FixturePredicate := if y.content?.isSome then read y else none

end FixturePredicate

end Gleaner
