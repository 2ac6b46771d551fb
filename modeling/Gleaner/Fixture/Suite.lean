import Gleaner.Fixture.Case
import Gleaner.Fixture.Predicate
import Gleaner.Yaml.Text
/-!
# Fixtures

A fixture names a predicate and has cases for it. A fixture for schemas has a whole schema instead,
of which one type is put to the cases, or of which a certain error is expected. Fixtures are read
from YAML texts, which may hold several of them.
-/
namespace Gleaner

structure Fixture where
  name : String
  description : String
  predicate : FixturePredicate
  maxDepth : Option Nat
  cases : List TestCase

structure SchemaFixture where
  name : String
  description : String
  schema : Json
  typeName : Option String
  cases : List TestCase
  expectError : Option String

def readDescription {σ : Type} [Yaml.Legible σ] : Option (Yaml σ) → Option String
  | some y => y.toText?
  | none => some ""

def readCases {σ : Type} [Yaml.Legible σ] (y : Yaml σ) : Option (List TestCase) :=
  match y.toItems? with
  | some items => items.mapM TestCase.ofYaml?
  | none => none

/-- Reads a text that may be absent or null. -/
def readName? {σ : Type} [Yaml.Legible σ] : Option (Yaml σ) → Option (Option String)
  | some y => y.toOption? Yaml.toText?
  | none => some none

namespace Fixture

def fields : List (String × Yaml.Extent) :=
  [("name", .scalar), ("description", .scalar), ("predicate", .whole), ("max_depth", .scalar),
    ("cases", .items (.record TestCase.fields))]

def ofYaml? {σ : Type} [Yaml.Legible σ] (y : Yaml σ) : Option Fixture := do
  let found ← y.record? fields true
  let name ← (← found.lookup "name").toText?
  let description ← readDescription (found.lookup "description")
  let predicate ← FixturePredicate.ofYaml? (← found.lookup "predicate")
  let maxDepth ← match found.lookup "max_depth" with
    | some y => y.toOption? Yaml.toSize?
    | none => some none
  let cases ← readCases (← found.lookup "cases")
  return ⟨name, description, predicate, maxDepth, cases⟩

def read? (text : String) : Option Fixture :=
  (Yaml.Source.readAs? (.record fields) text).bind ofYaml?

def readAll? (text : String) : Option (List Fixture) :=
  (Yaml.Source.documents? (.record fields) text).bind (·.mapM ofYaml?)

/-- The named type under test, if its predicate can be built. -/
def named? (f : Fixture) : Option NamedType := f.predicate.build?.map (⟨f.name, ·⟩)

/-- Runs the cases. There are no outcomes if the predicate or a document is written wrongly. -/
def run? (f : Fixture) : Option (List CaseResult) := do
  let named ← f.named?
  let finder : Finder := ⟨named.predicate, f.maxDepth.getD defaultMaxDepth⟩
  f.cases.mapM (·.run? finder)

def holds (f : Fixture) : Bool := f.run?.any (·.all (·.passed))

end Fixture

namespace SchemaFixture

def fields : List (String × Yaml.Extent) :=
  [("name", .scalar), ("description", .scalar), ("schema", .whole), ("type", .scalar),
    ("cases", .items (.record TestCase.fields)), ("expect_schema_error", .scalar)]

def ofYaml? {σ : Type} [Yaml.Legible σ] (y : Yaml σ) : Option SchemaFixture := do
  let found ← y.record? fields true
  let name ← (← found.lookup "name").toText?
  let description ← readDescription (found.lookup "description")
  let schema ← (← found.lookup "schema").toJson?
  let typeName ← readName? (found.lookup "type")
  let cases ← match found.lookup "cases" with
    | some y => readCases y
    | none => some []
  let expectError ← readName? (found.lookup "expect_schema_error")
  return ⟨name, description, schema.mergeFields, typeName, cases, expectError⟩

def read? (text : String) : Option SchemaFixture :=
  (Yaml.Source.readAs? (.record fields) text).bind ofYaml?

def readAll? (text : String) : Option (List SchemaFixture) :=
  (Yaml.Source.documents? (.record fields) text).bind (·.mapM ofYaml?)

/-- Reads and loads the schema. A schema that cannot be read is a bad configuration. -/
def load (f : SchemaFixture) (r : Registry) : Except SchemaError Schema :=
  match SchemaConfig.ofJson f.schema with
  | .error e => .error (.invalidConfig e.message)
  | .ok config => r.loadSchema config

/-- Runs the cases against a type of the schema, the one named like the fixture unless another is
given. There are no outcomes if a document is written wrongly. -/
def run (f : SchemaFixture) (r : Registry) : Except SchemaError (Option (List CaseResult)) :=
  match f.load r with
  | .error e => .error e
  | .ok schema => match schema.require (f.typeName.getD f.name) with
    | .error e => .error e
    | .ok finder => .ok (f.cases.mapM (·.run? finder))

/-- Whether the expected error arises, or else the cases can be run and all of them pass. -/
def holds (f : SchemaFixture) (r : Registry) : Bool :=
  match f.expectError, f.load r, f.run r with
  | some _, .ok _, _ => false
  | some kind, .error e, _ => e.kind == kind
  | none, _, .ok (some results) => results.all (·.passed)
  | none, _, _ => false

end SchemaFixture

end Gleaner
