import Gleaner.Schema.Config
import Gleaner.Yaml.Decode
import Gleaner.Yaml.Fields
/-!
# Schemas in YAML

A schema in a YAML text is read field by field, so that a name is text however it is written. Only
whether a schema can be read counts here. In a constraint a number may stand for the name of a field
or of a kind; the kind of the outermost one alone is text.
-/
namespace Gleaner

variable {σ : Type} [Yaml.Legible σ]

/-- Reads a specification of a match: one entry, the kind and the pattern. -/
def MatchSpec.ofYaml? : Yaml σ → Option MatchSpec
  | .mapping [(k, y)] => do
    let kind ← MatchKind.ofName? (← k.name? (MatchKind.all.map (·.name)))
    return ⟨kind, ← y.string?⟩
  | _ => none

def TypedConfig.ofYaml? (y : Yaml σ) : Option TypedConfig := do
  let found ← y.closedFields? shape.fields
  let url ← (← found.lookup "type_url").string?
  let config ← match found.lookup "config" with
    | some y => y.content?.bind Yaml.toJson?
    | none => some (.object [])
  return ⟨url, config.mergeFields⟩

namespace ConstraintConfig

def Tag.ofName? (s : String) : Option Tag := all.find? (·.name == s)

def isTagKey (k : Yaml σ) : Bool := k.string? == some "type"

/-- What is written for the tag of a constraint, which must be there once. -/
def tagOf? (entries : List (Yaml σ × Yaml σ)) : Option (Yaml σ) :=
  match entries.filter (isTagKey ·.1) with
  | [(_, y)] => some y
  | _ => none

def partOf? (tag : Tag) (entries : List (Yaml σ × Yaml σ)) : Option (Yaml σ) :=
  match Yaml.namedEntries? [tag.field] (entries.filter (!isTagKey ·.1)) with
  | some [(_, y)] => some y
  | _ => none

theorem sizeOf_field {tag : Tag} {entries : List (Yaml σ × Yaml σ)} {y : Yaml σ}
    (h : partOf? tag entries = some y) : sizeOf y < sizeOf entries := by
  simp only [partOf?] at h
  split at h
  · rename_i name v hn
    cases h
    obtain ⟨k, hk⟩ := Yaml.mem_of_named (p := (name, y)) hn (by simp)
    exact Yaml.sizeOf_lt_of_mem (List.mem_filter.1 hk).1
  · simp at h

def Tag.ofPart? (y : Yaml σ) : Option Tag := (y.name? (all.map (·.name))).bind ofName?

mutual
def ofPart? (y : Yaml σ) : Option ConstraintConfig :=
  match y with
  | .mapping entries => match (tagOf? entries).bind Tag.ofPart? with
    | some tag => match _h : partOf? tag entries with
      | some y => ofField? tag y
      | none => none
    | none => none
  | .sequence [kind, y] => (Tag.ofPart? kind).bind fun tag => ofField? tag y
  | _ => none
termination_by 2 * sizeOf y
decreasing_by
  · have := sizeOf_field _h
    simp only [Yaml.mapping.sizeOf_spec]
    omega
  · simp only [Yaml.sequence.sizeOf_spec, List.cons.sizeOf_spec, List.nil.sizeOf_spec]
    omega
def ofField? (tag : Tag) (y : Yaml σ) : Option ConstraintConfig :=
  match tag, y with
  | .single, y => (TypedConfig.ofYaml? y).map .single
  | .matching, y => (MatchSpec.ofYaml? y).map .matching
  | .allOf, .sequence items => (ofItems? items).map .allOf
  | .anyOf, .sequence items => (ofItems? items).map .anyOf
  | .not, y => (ofPart? y).map .not
  | _, _ => none
termination_by 2 * sizeOf y + 1
def ofItems? (items : List (Yaml σ)) : Option (List ConstraintConfig) :=
  match items with
  | [] => some []
  | y :: rest => do return (← ofPart? y) :: (← ofItems? rest)
termination_by 2 * sizeOf items
end

/-- Reads a constraint that stands on its own. All but its tag must have a settled value. -/
def ofYaml? : Yaml σ → Option ConstraintConfig
  | .mapping entries => do
    let tag ← Tag.ofName? (← (← tagOf? entries).toText?)
    if (Yaml.contentEntries? (entries.filter (!isTagKey ·.1))).isNone then none
    ofField? tag (← partOf? tag entries)
  | .sequence [kind, y] => do
    let tag ← Tag.ofName? (← kind.toText?)
    if y.content?.isNone then none
    ofField? tag y
  | _ => none

end ConstraintConfig

namespace TypeConfig

def fields : List (String × Yaml.Extent) := [("name", .scalar), ("constraint", .whole)]

def ofYaml? (y : Yaml σ) : Option TypeConfig := do
  let found ← y.record? fields false
  let name ← (← found.lookup "name").toText?
  let constraint ← ConstraintConfig.ofYaml? (← found.lookup "constraint")
  return ⟨name, constraint⟩

end TypeConfig

namespace SchemaConfig

def fields : List (String × Yaml.Extent) :=
  [("max_depth", .scalar), ("types", .items (.record TypeConfig.fields))]

def ofYaml? (y : Yaml σ) : Option SchemaConfig := do
  let found ← y.record? fields false
  let maxDepth ← match found.lookup "max_depth" with
    | some y => y.toOption? Yaml.toSize?
    | none => some none
  let items ← (← found.lookup "types").toItems?
  return ⟨maxDepth, ← items.mapM TypeConfig.ofYaml?⟩

end SchemaConfig

end Gleaner
