import Gleaner.Predicate.Value
import Gleaner.Schema.Config
/-!
# Registries of predicate types

A registry takes type URLs to factories, which make predicates from configurations. The latest
registration of a URL counts. The types that come with the library are string matchers, code point
lengths, enumerations and the type of all texts; a table of verdicts serves tests.
-/
namespace Gleaner

/-- Makes a predicate from a configuration. -/
abbrev Factory := Json → Except SchemaError Predicate

namespace Factory

/-- A factory that reads a record and then builds a predicate from it. -/
def ofReader {α : Type} (read : Json → Except DecodeError α)
    (build : α → Except SchemaError Check) : Factory := fun j =>
  match read j with
  | .error e => .error (.invalidConfig e.message)
  | .ok a => (build a).map .check

end Factory

structure MatcherConfig where
  value : String
  kind : MatchKind
  ignoreCase : Bool

namespace MatcherConfig

def shape : RecordShape := ⟨"StringMatcherConfig", ["value", "match_type", "ignore_case"]⟩

/-- Reads a kind of matching: its name, or an object that gives the name the value null. -/
def readKind : Json → Except DecodeError MatchKind
  | .string name => MatchSpec.readKind name
  | .object [(name, j)] => do
    let kind ← MatchSpec.readKind name
    match j with
    | .null => return kind
    | j => j.mismatch "unit"
  | .object _ => .error (.invalidValue "map" "map with a single key")
  | j => j.mismatch "string or map"

structure Draft where
  value : Option String := none
  kind : Option MatchKind := none
  ignoreCase : Bool := false

def Draft.set (name : String) (j : Json) (d : Draft) : Except DecodeError Draft :=
  if name = "value" then j.toText.map fun s => { d with value := some s }
  else if name = "match_type" then (readKind j).map fun k => { d with kind := some k }
  else j.toBool.map fun b => { d with ignoreCase := b }

def Draft.finish (missing : Nat → DecodeError) (d : Draft) : Except DecodeError MatcherConfig :=
  match d.value, d.kind with
  | some value, some kind => .ok ⟨value, kind, d.ignoreCase⟩
  | none, _ => .error (missing 0)
  | _, none => .error (missing 1)

def ofJson : Json → Except DecodeError MatcherConfig :=
  shape.read .inArray Draft.set {} Draft.finish

def matcher (c : MatcherConfig) : Except SchemaError Matcher := do
  Matcher.checkLength c.value (c.kind == .regex)
  match c.kind with
  | .literal .exact => .ok (.literal .exact c.value c.ignoreCase)
  | .literal .leading => .ok (.literal .leading c.value c.ignoreCase)
  | .literal .trailing => .ok (.literal .trailing c.value c.ignoreCase)
  | .literal .containing => .ok (.literal .containing c.value c.ignoreCase)
  | .regex =>
    let compiled := if c.ignoreCase then Regex.compile c.value true
      else Regex.compile c.value false
    match compiled with
    | .ok r => .ok (.regex r)
    | .error e => .error (.invalidPattern c.value e)

def check (c : MatcherConfig) : Except SchemaError Check := c.matcher.map Matcher.check

end MatcherConfig

namespace CodepointLength

def shape : RecordShape := ⟨"CodepointLengthConfig", ["min", "max"]⟩

def setBound (name : String) (j : Json) (bounds : CodepointLength) :
    Except DecodeError CodepointLength :=
  j.toSize?.map fun n =>
    if name = "min" then { bounds with min := n } else { bounds with max := n }

def ofJson : Json → Except DecodeError CodepointLength :=
  shape.read .inArray setBound ⟨none, none⟩ fun _ bounds => .ok bounds

/-- At least one bound is needed, and the range must not be empty. -/
def load (bounds : CodepointLength) : Except SchemaError Check :=
  match bounds.min, bounds.max with
  | none, none => .error (.invalidConfig "codepoint_length needs at least one of `min` or `max`")
  | some min, some max =>
    if max < min then
      .error (.invalidConfig s!"codepoint_length range is empty: min {min} > max {max}")
    else .ok bounds.check
  | _, _ => .ok bounds.check

end CodepointLength

namespace ValidValues

def maxValues : Nat := 65536

def shape : RecordShape := ⟨"ValidValuesConfig", ["values"]⟩

def ofJson : Json → Except DecodeError (List String) :=
  shape.read .inArray (fun _ j _ => j.toTexts.map some) none fun missing values =>
    match values with
    | some values => .ok values
    | none => .error (missing 0)

def load (values : List String) : Except SchemaError Check :=
  if maxValues < values.length then
    .error (.invalidConfig
      s!"valid_values lists {values.length} values, but maximum allowed is {maxValues}")
  else .ok (ofList values).check

end ValidValues

structure LookupConfig where
  accepted : List String
  rejected : List String

namespace LookupConfig

def shape : RecordShape := ⟨"LookupConfig", ["accept", "reject"]⟩

def set (name : String) (j : Json) (c : LookupConfig) : Except DecodeError LookupConfig :=
  j.toTexts.map fun texts =>
    if name = "accept" then { c with accepted := texts } else { c with rejected := texts }

def ofJson : Json → Except DecodeError LookupConfig :=
  shape.read .inArray set ⟨[], []⟩ fun _ c => .ok c

/-- No value may be both accepted and rejected. -/
def check (c : LookupConfig) : Except SchemaError Check :=
  match c.accepted.find? c.rejected.contains with
  | some both =>
    .error (.invalidConfig ("lookup lists \"" ++ both ++ "\" as both accepted and rejected"))
  | none => .ok (Lookup.ofLists c.accepted c.rejected).check

end LookupConfig

namespace Factory

def stringMatcher : Factory := ofReader MatcherConfig.ofJson MatcherConfig.check

def codepointLength : Factory := ofReader CodepointLength.ofJson CodepointLength.load

def validValues : Factory := ofReader ValidValues.ofJson ValidValues.load

def acceptAll : Factory := fun _ => .ok (.check .acceptAll)

def lookup : Factory := ofReader LookupConfig.ofJson LookupConfig.check

end Factory

def setFactory (url : String) (factory : Factory) :
    List (String × Factory) → List (String × Factory)
  | [] => [(url, factory)]
  | (u, f) :: rest =>
    if u == url then (u, factory) :: rest else (u, f) :: setFactory url factory rest

structure RegistryBuilder where
  factories : List (String × Factory) := []

structure Registry where
  factories : List (String × Factory)

namespace Registry

def size (r : Registry) : Nat := r.factories.length

def isEmpty (r : Registry) : Bool := r.factories.isEmpty

def get? (r : Registry) (url : String) : Option Factory := r.factories.lookup url

def contains (r : Registry) (url : String) : Bool := (r.get? url).isSome

/-- The registered URLs, sorted. -/
def urls (r : Registry) : List String := sorted (r.factories.map (·.1))

def shown (r : Registry) : String :=
  "Registry \x7b type_urls: " ++ Text.quotedList r.urls ++ " \x7d"

end Registry

namespace RegistryBuilder

/-- Registers a type. The latest registration of a URL counts. -/
def register (b : RegistryBuilder) (url : String) (factory : Factory) : RegistryBuilder :=
  ⟨setFactory url factory b.factories⟩

def build (b : RegistryBuilder) : Registry := ⟨b.factories⟩

def shown (b : RegistryBuilder) : String :=
  "RegistryBuilder \x7b type_urls: " ++ Text.quotedList b.build.urls ++ " \x7d"

def registerCore (b : RegistryBuilder) : RegistryBuilder :=
  (((b.register "typefind.core.v1.StringMatcher" .stringMatcher).register
    "typefind.core.v1.CodepointLength" .codepointLength).register
    "typefind.core.v1.ValidValues" .validValues).register
    "typefind.core.v1.AcceptAll" .acceptAll

/-- Registers the types that come with the library, and tables of verdicts. -/
def registerTest (b : RegistryBuilder) : RegistryBuilder :=
  b.registerCore.register "typefind.test.v1.Lookup" .lookup

end RegistryBuilder

end Gleaner
