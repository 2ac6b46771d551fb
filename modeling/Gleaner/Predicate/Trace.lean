import Gleaner.Predicate.Constraint
/-!
# Traces of constraints

A trace records what every predicate of a constraint answered. No child is left out: a failing
predicate is recorded with its error and counts as one that does not hold, and a negation of
something that failed does not hold either.
-/
namespace Gleaner

/-- The record of evaluating a constraint in full. -/
inductive ConstraintTrace where
  | single (matched : Bool) (predicate : String) (error : Option Failure)
  | allOf (matched : Bool) (children : List ConstraintTrace)
  | anyOf (matched : Bool) (children : List ConstraintTrace)
  | not (matched : Bool) (inner : ConstraintTrace)

namespace ConstraintTrace

def matched : ConstraintTrace → Bool
  | .single m _ _ => m
  | .allOf m _ => m
  | .anyOf m _ => m
  | .not m _ => m

mutual
/-- The first error anywhere in a trace. -/
def firstError : ConstraintTrace → Option Failure
  | .single _ _ e => e
  | .allOf _ ts => firstErrorAll ts
  | .anyOf _ ts => firstErrorAll ts
  | .not _ t => t.firstError
def firstErrorAll : List ConstraintTrace → Option Failure
  | [] => none
  | t :: rest => match t.firstError with
    | some e => some e
    | none => firstErrorAll rest
end

def ofAnswer (predicate : String) : Except Failure Bool → ConstraintTrace
  | .ok holds => .single holds predicate none
  | .error e => .single false predicate (some e)

end ConstraintTrace

namespace Constraint

mutual
/-- Evaluates every predicate of a constraint and records the answers. -/
def trace (node : Node) : Constraint → ConstraintTrace
  | .single p => .ofAnswer p.name (p.test node)
  | .allOf cs =>
    let ts := traceAll node cs
    .allOf (ts.all ConstraintTrace.matched) ts
  | .anyOf cs =>
    let ts := traceAll node cs
    .anyOf (ts.any ConstraintTrace.matched) ts
  | .not c =>
    let t := trace node c
    .not (t.firstError.isNone && !t.matched) t
def traceAll (node : Node) : List Constraint → List ConstraintTrace
  | [] => []
  | c :: rest => trace node c :: traceAll node rest
end

end Constraint

namespace ConstraintTrace

def shownError : Option Failure → String
  | none => "None"
  | some e => "Some(PredicateError \x7b message: " ++ Text.quoted e.message ++ " \x7d)"

def shownRecord (name : String) (matched : Bool) (fields : String) : String :=
  name ++ " \x7b matched: " ++ toString matched ++ ", " ++ fields ++ " \x7d"

mutual
def shown : ConstraintTrace → String
  | .single m p e =>
    shownRecord "Single" m ("predicate: " ++ Text.quoted p ++ ", error: " ++ shownError e)
  | .allOf m ts =>
    shownRecord "AllOf" m ("children: [" ++ String.intercalate ", " (shownAll ts) ++ "]")
  | .anyOf m ts =>
    shownRecord "AnyOf" m ("children: [" ++ String.intercalate ", " (shownAll ts) ++ "]")
  | .not m t => shownRecord "Not" m ("inner: " ++ t.shown)
def shownAll : List ConstraintTrace → List String
  | [] => []
  | t :: rest => t.shown :: shownAll rest
end

end ConstraintTrace

end Gleaner
