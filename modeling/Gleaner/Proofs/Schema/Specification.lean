import Gleaner.Proofs.Json.Quotation
import Gleaner.Proofs.Schema.Matching
/-!
# Specifications as texts

A specification is written as an object with one field, whose name is the kind of matching and whose
value is the pattern. Both are quoted, and a quoted text is one token whatever its characters are,
so the text of a specification is read as that object again and the object as that specification.
-/
namespace Gleaner

namespace Json

variable (name value : String)

theorem toList_render_textField : (render (.object [(name, .string value)])).toList =
    '\x7b' :: ((quote name).toList ++ ':' :: ((quote value).toList ++ ['\x7d'])) := by
  have hfields : render (.object [(name, .string value)]) =
      "\x7b" ++ (quote name ++ ":" ++ quote value) ++ "\x7d" := rfl
  simp [hfields]

theorem tokens?_render_textField : tokens? [] (render (.object [(name, .string value)])).toList =
    some [.openObject, .string name, .colon, .string value, .closeObject] := by
  rw [toList_render_textField, tokens?_cons [] rfl rfl, tokens?_quote_append,
    tokens?_cons _ rfl rfl, tokens?_quote_append, tokens?_cons _ rfl rfl, tokens?]
  rfl

theorem parse?_render_textField : parse? (render (.object [(name, .string value)])) =
    some (.object [(name, .string value)]) := by
  rw [parse?, tokens?_render_textField]
  rfl

theorem read?_render_textField : read? (render (.object [(name, .string value)])) =
    some (.object [(name, .string value)]) := by
  rw [read?, parse?_render_textField]
  rfl

end Json

namespace MatchSpec

theorem ofJson_toJson (spec : MatchSpec) : ofJson spec.toJson = .ok spec := by
  rw [toJson, ofJson, spec.kind.readKind_name]
  rfl

theorem read?_render_toJson (spec : MatchSpec) :
    (Json.read? spec.toJson.render).map ofJson = some (.ok spec) := by
  rw [toJson, Json.read?_render_textField, Option.map_some, ← toJson, ofJson_toJson]

/-- A specification is read back from its text, straight from the text or by way of the value that
the text stands for. So no two specifications have the same text. -/
theorem read_render (spec : MatchSpec) :
    (Json.parse? spec.toJson.render).map ofJson = some (.ok spec) ∧
    (Json.read? spec.toJson.render).map ofJson = some (.ok spec) ∧
    ∀ other : MatchSpec, other.toJson.render = spec.toJson.render ↔ other = spec := by
  refine ⟨?_, read?_render_toJson spec, fun other => ⟨fun h => ?_, fun h => h ▸ rfl⟩⟩
  · rw [toJson, Json.parse?_render_textField, Option.map_some, ← toJson, ofJson_toJson]
  · have hread := read?_render_toJson other
    rw [h, read?_render_toJson spec] at hread
    exact (Except.ok.inj (Option.some.inj hread)).symm

end MatchSpec

end Gleaner
