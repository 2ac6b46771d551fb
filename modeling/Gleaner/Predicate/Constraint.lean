import Gleaner.Predicate.Check
/-!
# Constraints and named types

A constraint combines predicates by "all of", "any of" and "not". A predicate is a check or a named
type, and a named type is a constraint with a name, so named types nest. Evaluation goes from left
to right and stops at the first child that decides the result or fails.
-/
namespace Gleaner

mutual
/-- What a single constraint tests: a check, or a named type. -/
inductive Predicate where
  | check (check : Check)
  | named (name : String) (constraint : Constraint)
inductive Constraint where
  | single (predicate : Predicate)
  | allOf (constraints : List Constraint)
  | anyOf (constraints : List Constraint)
  | not (constraint : Constraint)
end

def Predicate.name : Predicate → String
  | .check c => c.name
  | .named name _ => name

mutual
def Predicate.test (node : Node) : Predicate → Except Failure Bool
  | .check c => c.test node
  | .named _ c => c.evaluate node
/-- Whether a node satisfies a constraint. -/
def Constraint.evaluate (node : Node) : Constraint → Except Failure Bool
  | .single p => p.test node
  | .allOf cs => Constraint.evaluateAll node cs
  | .anyOf cs => Constraint.evaluateAny node cs
  | .not c => match c.evaluate node with
    | .ok holds => .ok !holds
    | .error e => .error e
/-- Whether a node satisfies every constraint of a list; stops at the first that does not hold. -/
def Constraint.evaluateAll (node : Node) : List Constraint → Except Failure Bool
  | [] => .ok true
  | c :: rest => match c.evaluate node with
    | .ok true => Constraint.evaluateAll node rest
    | .ok false => .ok false
    | .error e => .error e
/-- Whether a node satisfies some constraint of a list; stops at the first that holds. -/
def Constraint.evaluateAny (node : Node) : List Constraint → Except Failure Bool
  | [] => .ok false
  | c :: rest => match c.evaluate node with
    | .ok true => .ok true
    | .ok false => Constraint.evaluateAny node rest
    | .error e => .error e
end

namespace Constraint

def ofCheck (c : Check) : Constraint := .single (.check c)

mutual
/-- The nesting depth of a constraint. A predicate counts as one level, whatever it is. -/
def depth : Constraint → Nat
  | .single _ => 1
  | .allOf cs => 1 + depthAll cs
  | .anyOf cs => 1 + depthAll cs
  | .not c => 1 + c.depth
def depthAll : List Constraint → Nat
  | [] => 0
  | c :: rest => max c.depth (depthAll rest)
end

end Constraint

mutual
def Predicate.shown : Predicate → String
  | .check c => c.shown
  | .named name c =>
    "NamedType \x7b name: " ++ Text.quoted name ++ ", constraint: " ++ c.shown ++ " \x7d"
/-- The description of a constraint, which does not list the parts of a combination. -/
def Constraint.shown : Constraint → String
  | .single p => "Single(" ++ p.shown ++ ")"
  | .allOf cs => "AllOf(" ++ toString cs.length ++ ")"
  | .anyOf cs => "AnyOf(" ++ toString cs.length ++ ")"
  | .not _ => "Not"
end

structure NamedType where
  name : String
  constraint : Constraint

namespace NamedType

def predicate (t : NamedType) : Predicate := .named t.name t.constraint

def test (t : NamedType) (node : Node) : Except Failure Bool := t.predicate.test node

def shown (t : NamedType) : String := t.predicate.shown

end NamedType

end Gleaner
