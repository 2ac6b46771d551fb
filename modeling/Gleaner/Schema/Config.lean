import Gleaner.Json.Decode
import Gleaner.Predicate.Matcher
/-!
# Configurations of schemas

A schema lists named types, and a type is a constraint over predicates. A predicate is named by its
type URL and carries a configuration of its own, which is not looked into here. Configurations are
read from JSON values; all records but constraints refuse fields that they do not know.
-/
namespace Gleaner

structure TypedConfig where
  url : String
  config : Json

inductive ConstraintConfig where
  | single (predicate : TypedConfig)
  | matching (spec : MatchSpec)
  | allOf (constraints : List ConstraintConfig)
  | anyOf (constraints : List ConstraintConfig)
  | not (constraint : ConstraintConfig)

structure TypeConfig where
  name : String
  constraint : ConstraintConfig

structure SchemaConfig where
  maxDepth : Option Nat
  types : List TypeConfig

namespace TypedConfig

def shape : RecordShape := ⟨"TypedConfig", ["type_url", "config"]⟩

structure Draft where
  url : Option String := none
  config : Json := .object []

def Draft.set (name : String) (j : Json) (d : Draft) : Except DecodeError Draft :=
  if name = "type_url" then j.toText.map fun url => { d with url := some url }
  else .ok { d with config := j.mergeFields }

/-- Reads the reference to a predicate. An absent configuration is an empty object. -/
def ofJson : Json → Except DecodeError TypedConfig :=
  shape.read .inSequence Draft.set {} fun missing d => match d.url with
    | some url => .ok ⟨url, d.config⟩
    | none => .error (missing 0)

end TypedConfig

namespace MatchSpec

def readKind (name : String) : Except DecodeError MatchKind :=
  match MatchKind.ofName? name with
  | some k => .ok k
  | none => .error (.unknownVariant name (MatchKind.all.map (·.name)))

/-- Reads a specification: an object with one entry, the kind and the pattern. -/
def ofJson : Json → Except DecodeError MatchSpec
  | .object [(name, j)] => do
    let kind ← readKind name
    let pattern ← j.toText
    return ⟨kind, pattern⟩
  | .object _ => .error (.invalidValue "map" "map with a single key")
  | .string name => do
    let _ ← readKind name
    .error (.invalidType "unit variant" "newtype variant")
  | j => j.mismatch "string or map"

def toJson (spec : MatchSpec) : Json := .object [(spec.kind.name, .string spec.pattern)]

end MatchSpec

namespace ConstraintConfig

inductive Tag where
  | single | matching | allOf | anyOf | not
  deriving DecidableEq, Repr

namespace Tag

def all : List Tag := [.single, .matching, .allOf, .anyOf, .not]

def name : Tag → String
  | .single => "single"
  | .matching => "match"
  | .allOf => "all_of"
  | .anyOf => "any_of"
  | .not => "not"

/-- The only field of a kind besides the tag. -/
def field : Tag → String
  | .single => "predicate"
  | .matching => "value_match"
  | .allOf => "constraints"
  | .anyOf => "constraints"
  | .not => "constraint"

def title : Tag → String
  | .single => "Single"
  | .matching => "Match"
  | .allOf => "AllOf"
  | .anyOf => "AnyOf"
  | .not => "Not"

/-- Reads a tag. A constraint that is part of another may also give the number of its tag. -/
def ofJson (nested : Bool) : Json → Except DecodeError Tag
  | .string s => match all.find? (·.name == s) with
    | some t => .ok t
    | none => .error (.unknownVariant s (all.map (·.name)))
  | .int n =>
    if nested ∧ 0 ≤ n then
      match all[n.toNat]? with
      | some t => .ok t
      | none => .error (.invalidValue (Json.int n).described "variant index 0 <= i < 5")
    else (Json.int n).mismatch "variant identifier"
  | j => j.mismatch "variant identifier"

/-- The tag among the entries of an object, which must be there once. -/
def ofEntries (nested : Bool) (entries : List (String × Json)) : Except DecodeError Tag :=
  match entries.filter (·.1 == "type") with
  | [] => .error (.missingField "type")
  | [(_, j)] => ofJson nested j
  | (_, j) :: _ => do
    let _ ← ofJson nested j
    .error (.duplicateField "type")

end Tag

mutual
def read (nested : Bool) : Json → Except DecodeError ConstraintConfig
  | .object entries => do readEntries (← Tag.ofEntries nested entries) none entries
  | .array [] => .error (.missingField "type")
  | .array (j :: rest) => do readItems (← Tag.ofJson nested j) rest
  | j => j.mismatch "internally tagged enum ConstraintConfig"
/-- Reads the field of a constraint with the given tag among entries. Others are passed over. -/
def readEntries (tag : Tag) (found : Option ConstraintConfig) :
    List (String × Json) → Except DecodeError ConstraintConfig
  | [] => match found with
    | some c => .ok c
    | none => .error (.missingField tag.field)
  | (name, j) :: rest =>
    if name = tag.field then
      if found.isSome then .error (.duplicateField name)
      else do readEntries tag (some (← readField tag j)) rest
    else readEntries tag found rest
def readItems (tag : Tag) : List Json → Except DecodeError ConstraintConfig
  | [] => .error (.invalidLength 0
    ("struct variant ConstraintConfig::" ++ tag.title ++ " with 1 element"))
  | j :: rest => do
    let c ← readField tag j
    if rest.isEmpty then return c
    else .error (Json.Surplus.inSequence.error (rest.length + 1) 1)
def readField : Tag → Json → Except DecodeError ConstraintConfig
  | .single, j => (TypedConfig.ofJson j).map .single
  | .matching, j => (MatchSpec.ofJson j).map .matching
  | .allOf, .array items => (readAll items).map .allOf
  | .anyOf, .array items => (readAll items).map .anyOf
  | .not, .object entries => do
    return .not (← readEntries (← Tag.ofEntries true entries) none entries)
  | .not, .array [] => .error (.missingField "type")
  | .not, .array (j :: rest) => do return .not (← readItems (← Tag.ofJson true j) rest)
  | .not, j => j.mismatch "internally tagged enum ConstraintConfig"
  | _, j => j.mismatch "a sequence"
def readAll : List Json → Except DecodeError (List ConstraintConfig)
  | [] => .ok []
  | j :: rest => do return (← read true j) :: (← readAll rest)
end

def ofJson : Json → Except DecodeError ConstraintConfig := read false

end ConstraintConfig

namespace TypeConfig

def shape : RecordShape := ⟨"TypeConfig", ["name", "constraint"]⟩

structure Draft where
  name : Option String := none
  constraint : Option ConstraintConfig := none

def Draft.set (name : String) (j : Json) (d : Draft) : Except DecodeError Draft :=
  if name = "name" then j.toText.map fun s => { d with name := some s }
  else (ConstraintConfig.ofJson j).map fun c => { d with constraint := some c }

def Draft.finish (missing : Nat → DecodeError) (d : Draft) : Except DecodeError TypeConfig :=
  match d.name, d.constraint with
  | some name, some constraint => .ok ⟨name, constraint⟩
  | none, _ => .error (missing 0)
  | _, none => .error (missing 1)

def ofJson : Json → Except DecodeError TypeConfig :=
  shape.read .inArray Draft.set {} Draft.finish

end TypeConfig

namespace SchemaConfig

def shape : RecordShape := ⟨"SchemaConfig", ["max_depth", "types"]⟩

structure Draft where
  maxDepth : Option Nat := none
  types : Option (List TypeConfig) := none

def readTypes : Json → Except DecodeError (List TypeConfig)
  | .array items => items.mapM TypeConfig.ofJson
  | j => j.mismatch "a sequence"

def Draft.set (name : String) (j : Json) (d : Draft) : Except DecodeError Draft :=
  if name = "max_depth" then j.toSize?.map fun n => { d with maxDepth := n }
  else (readTypes j).map fun ts => { d with types := some ts }

def Draft.finish (missing : Nat → DecodeError) (d : Draft) : Except DecodeError SchemaConfig :=
  match d.types with
  | some types => .ok ⟨d.maxDepth, types⟩
  | none => .error (missing 1)

def ofJson : Json → Except DecodeError SchemaConfig :=
  shape.read .inArray Draft.set {} Draft.finish

end SchemaConfig

end Gleaner
