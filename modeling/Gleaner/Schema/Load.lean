import Gleaner.Predicate.Validation
import Gleaner.Schema.Registry
import Gleaner.Search.Finder
/-!
# Loading schemas

A registry turns configurations into constraints, named types and schemas. The first thing wrong in
the order of the configuration decides the error; how deep a constraint nests is looked at last.
-/
namespace Gleaner

/-- Named types, and the depth to which their finders descend. -/
structure Schema where
  types : List NamedType
  maxDepth : Nat

namespace Schema

def names (s : Schema) : List String := s.types.map (·.name)

def get? (s : Schema) (name : String) : Option NamedType := s.types.find? (·.name == name)

def finder? (s : Schema) (name : String) : Option Finder :=
  (s.get? name).map fun t => { predicate := t.predicate, maxDepth := s.maxDepth }

/-- A finder for the type of the given name; the error lists the names there are. -/
def require (s : Schema) (name : String) : Except SchemaError Finder :=
  match s.finder? name with
  | some f => .ok f
  | none => .error (.unknownType name s.names)

def event (s : Schema) : Event := .schemaLoaded s.types.length s.maxDepth

end Schema

namespace Registry

def resolve (r : Registry) (config : TypedConfig) : Except SchemaError Predicate :=
  match r.get? config.url with
  | some factory => factory config.config
  | none => .error (.unknownTypeUrl config.url r.urls)

mutual
def loadConstraint (r : Registry) : ConstraintConfig → Except SchemaError Constraint
  | .single predicate => match r.resolve predicate with
    | .ok p => .ok (.single p)
    | .error e => .error e
  | .matching spec => match spec.matcher with
    | .ok m => .ok (.ofCheck m.check)
    | .error e => .error e
  | .allOf cs =>
    if maxCombined < cs.length then .error (.tooManyConstraints cs.length maxCombined)
    else match loadAll r cs with
      | .ok cs => .ok (.allOf cs)
      | .error e => .error e
  | .anyOf cs =>
    if maxCombined < cs.length then .error (.tooManyConstraints cs.length maxCombined)
    else match loadAll r cs with
      | .ok cs => .ok (.anyOf cs)
      | .error e => .error e
  | .not c => match loadConstraint r c with
    | .ok c => .ok (.not c)
    | .error e => .error e
def loadAll (r : Registry) : List ConstraintConfig → Except SchemaError (List Constraint)
  | [] => .ok []
  | c :: rest => match loadConstraint r c with
    | .error e => .error e
    | .ok c => match loadAll r rest with
      | .error e => .error e
      | .ok cs => .ok (c :: cs)
end

/-- Loads a named type, whose depth is bounded. -/
def loadType (r : Registry) (config : TypeConfig) : Except SchemaError NamedType :=
  match r.loadConstraint config.constraint with
  | .error e => .error e
  | .ok c =>
    let named : NamedType := ⟨config.name, c⟩
    match named.validate with
    | .error e => .error e
    | .ok () => .ok named

def loadTypes (r : Registry) : List TypeConfig → Except SchemaError (List NamedType)
  | [] => .ok []
  | t :: rest => match r.loadType t with
    | .error e => .error e
    | .ok t => match r.loadTypes rest with
      | .error e => .error e
      | .ok ts => .ok (t :: ts)

/-- The first name that repeats an earlier one. -/
def firstRepeated? (seen : List String) : List String → Option String
  | [] => none
  | name :: rest =>
    if seen.contains name then some name else firstRepeated? (name :: seen) rest

/-- Loads a schema. The depth must not be zero, and the names must be different. -/
def loadSchema (r : Registry) (config : SchemaConfig) : Except SchemaError Schema :=
  if config.maxDepth = some 0 then .error (.invalidConfig "max_depth must be at least 1")
  else match firstRepeated? [] (config.types.map (·.name)) with
    | some name => .error (.duplicateType name)
    | none => match r.loadTypes config.types with
      | .error e => .error e
      | .ok types => .ok ⟨types, config.maxDepth.getD defaultMaxDepth⟩

end Registry

end Gleaner
