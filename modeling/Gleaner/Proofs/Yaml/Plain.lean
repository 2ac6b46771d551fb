import Gleaner.Search.Trace
import Gleaner.Proofs.Yaml.Tagging
/-!
# Plain YAML documents

A JSON value is a YAML value without tags too. Reading JSON never fails and reading YAML may, but of
such a value both make the same document (`toNode_ofJson`), with the same scalars and with items and
fields in the same order. So it makes no difference to a search in which of the two a document is
written.
-/
namespace Gleaner

namespace Json

theorem toItems_eq_map (items : List Json) :
    toItems items = items.map fun j => (none, j.toNode) := by
  induction items with
  | nil => rfl
  | cons j rest ih => rw [toItems, ih, List.map_cons]

theorem toFields_eq_map (fields : List (String × Json)) :
    toFields fields = fields.map fun field => (some field.1, field.2.toNode) := by
  induction fields with
  | nil => rfl
  | cons field rest ih => rw [toFields, ih, List.map_cons]

end Json

namespace Yaml.Value

mutual
/-- The plain YAML value that a JSON value is stands for the same document. -/
theorem toNode_ofJson (j : Json) : toNode (ofJson j) = .ok j.toNode := by
  match j with
  | .null => rfl
  | .bool _ => rfl
  | .int _ => rfl
  | .float _ => rfl
  | .string _ => rfl
  | .array items =>
    have hitems : (items.map Json.toNode).map (none, ·) = Json.toItems items := by
      rw [List.map_map, Json.toItems_eq_map]
      rfl
    rw [ofJson, toNode, toNodes_ofItems items, Json.toNode, ← hitems]
    rfl
  | .object fields =>
    have hfields : (fields.map fun field => (field.1, field.2.toNode)).map
        (fun field => (some field.1, field.2)) = Json.toFields fields := by
      rw [List.map_map, Json.toFields_eq_map]
      rfl
    rw [ofJson, toNode, toFields_ofFields fields, Json.toNode, ← hfields]
    rfl
theorem toNodes_ofItems (items : List Json) :
    toNodes (ofItems items) = .ok (items.map Json.toNode) := by
  match items with
  | [] => rfl
  | j :: rest => rw [ofItems, toNodes, toNode_ofJson j, toNodes_ofItems rest, List.map_cons]
theorem toFields_ofFields (fields : List (String × Json)) :
    toFields (ofFields fields) = .ok (fields.map fun field => (field.1, field.2.toNode)) := by
  match fields with
  | [] => rfl
  | (name, j) :: rest =>
    have hname : text? (.scalar (.string name)) = some name := text?_eq_some.mpr rfl
    rw [ofFields, toFields, hname, toNode_ofJson j, toFields_ofFields rest, List.map_cons]
end

/-- Every JSON value stands for the same document when it is written as plain YAML, and so every
search finds, counts and records the same in both. -/
theorem search_ofJson (j : Json) : toNode (ofJson j) = .ok j.toNode ∧
    ∀ f : Finder, (toNode (ofJson j)).map f.find = .ok (f.find j.toNode) ∧
      (toNode (ofJson j)).map f.count = .ok (f.count j.toNode) ∧
      (toNode (ofJson j)).map f.trace = .ok (f.trace j.toNode) := by
  have hnode := toNode_ofJson j
  refine ⟨hnode, fun f => ?_⟩
  rw [hnode]
  exact ⟨rfl, rfl, rfl⟩

end Yaml.Value

end Gleaner
