import Gleaner.Json.Value
/-!
# Reading values back from documents

The document that a JSON value is has a node for each part of it, and no two kinds of values share
one: arrays are lists, objects are structs with the names of their fields, and a number is of kind
int or float. So the value can be read back (`Json.ofNode?`), with one exception. An integer that
does not fit 64 bits with a sign becomes the nearest floating-point number, and is read back as
that.
-/
namespace Gleaner.Json

/-- All integers of a value fit 64 bits with a sign. -/
inductive Fits : Json → Prop
  | null : Fits .null
  | bool (b : Bool) : Fits (.bool b)
  | int {n : Int} (low : -0x8000000000000000 ≤ n) (high : n < 0x8000000000000000) : Fits (.int n)
  | float (x : Binary64) : Fits (.float x)
  | string (s : String) : Fits (.string s)
  | array {items : List Json} (parts : ∀ j ∈ items, Fits j) : Fits (.array items)
  | object {fields : List (String × Json)} (parts : ∀ field ∈ fields, Fits field.2) :
      Fits (.object fields)

def ofScalar? : Scalar → Option Json
  | .bool b => some (.bool b)
  | .int n => some (.int n.toInt)
  | .float x => some (.float x)
  | .string s => some (.string s)
  | .symbol _ => none
  | .bytes _ => none

mutual
/-- The value that a document is read back as. -/
def ofNode? : Node → Option Json
  | .null k => if k = .null then some .null else none
  | .scalar s => ofScalar? s
  | .container .list cs => (ofItems? cs).map .array
  | .container .sexp _ => none
  | .container .struct cs => (ofFields? cs).map .object
def ofItems? : List (Option String × Node) → Option (List Json)
  | [] => some []
  | (none, n) :: rest => do return (← ofNode? n) :: (← ofItems? rest)
  | (some _, _) :: _ => none
def ofFields? : List (Option String × Node) → Option (List (String × Json))
  | [] => some []
  | (none, _) :: _ => none
  | (some name, n) :: rest => do return (name, ← ofNode? n) :: (← ofFields? rest)
end

theorem ofItems?_toItems {items : List Json} (h : ∀ j ∈ items, ofNode? j.toNode = some j) :
    ofItems? (toItems items) = some items := by
  induction items with
  | nil => rfl
  | cons j rest ih =>
    obtain ⟨hj, hrest⟩ := List.forall_mem_cons.mp h
    rw [toItems, ofItems?, hj, ih hrest]
    rfl

theorem ofFields?_toFields {fields : List (String × Json)}
    (h : ∀ field ∈ fields, ofNode? field.2.toNode = some field.2) :
    ofFields? (toFields fields) = some fields := by
  induction fields with
  | nil => rfl
  | cons field rest ih =>
    obtain ⟨hfield, hrest⟩ := List.forall_mem_cons.mp h
    rw [toFields, ofFields?, hfield, ih hrest]
    rfl

theorem intScalar_of_fits {n : Int} (h : (int n).Fits) : intScalar n = .int (Int64.ofInt n) := by
  cases h with
  | int low high =>
    have hfits : fitsInt64 n = true := by simp [fitsInt64, low, high]
    rw [intScalar, if_pos hfits]

theorem fits_toInt (n : Int64) : (int n.toInt).Fits := by
  have hlow := n.le_toInt
  have hhigh := n.toInt_lt
  exact .int (by omega) (by omega)

theorem intScalar_toInt (n : Int64) : intScalar n.toInt = .int n := by
  rw [intScalar_of_fits (fits_toInt n), Int64.ofInt_toInt]

theorem ofNode?_toNode {j : Json} (h : j.Fits) : ofNode? j.toNode = some j := by
  induction h with
  | @int n low high =>
    have hvalue : (Int64.ofInt n).toInt = n := Int64.toInt_ofInt_of_le (by omega) (by omega)
    rw [toNode, intScalar_of_fits (.int low high), ofNode?, ofScalar?, hvalue]
  | array _ ih => rw [toNode, ofNode?, ofItems?_toItems ih, Option.map_some]
  | object _ ih => rw [toNode, ofNode?, ofFields?_toFields ih, Option.map_some]
  | _ => rfl

theorem fits_of_ofScalar? {s : Scalar} {j : Json} (h : ofScalar? s = some j) :
    j.Fits ∧ j.toNode = .scalar s := by
  cases s with
  | int n =>
    cases h
    exact ⟨fits_toInt n, by rw [toNode, intScalar_toInt]⟩
  | bool b =>
    cases h
    exact ⟨.bool b, rfl⟩
  | float x =>
    cases h
    exact ⟨.float x, rfl⟩
  | string s =>
    cases h
    exact ⟨.string s, rfl⟩
  | _ => cases h

mutual
theorem fits_of_ofNode? {n : Node} {j : Json} (h : ofNode? n = some j) :
    j.Fits ∧ j.toNode = n := by
  match n with
  | .null k =>
    rw [ofNode?] at h
    split at h
    · rename_i hk
      cases h
      exact ⟨.null, congrArg Node.null hk.symm⟩
    · cases h
  | .scalar s => exact fits_of_ofScalar? h
  | .container .list cs =>
    obtain ⟨items, hitems, rfl⟩ := Option.map_eq_some_iff.mp h
    obtain ⟨hfits, hcs⟩ := fits_of_ofItems? hitems
    exact ⟨.array hfits, congrArg _ hcs⟩
  | .container .sexp _ => cases h
  | .container .struct cs =>
    obtain ⟨fields, hfields, rfl⟩ := Option.map_eq_some_iff.mp h
    obtain ⟨hfits, hcs⟩ := fits_of_ofFields? hfields
    exact ⟨.object hfits, congrArg _ hcs⟩
theorem fits_of_ofItems? {cs : List (Option String × Node)} {items : List Json}
    (h : ofItems? cs = some items) : (∀ j ∈ items, j.Fits) ∧ toItems items = cs := by
  match cs with
  | [] =>
    cases h
    exact ⟨nofun, rfl⟩
  | (none, n) :: rest =>
    simp only [ofItems?, Option.bind_eq_bind, Option.bind_eq_some_iff, Option.pure_def,
      Option.some.injEq] at h
    obtain ⟨j, hj, js, hjs, rfl⟩ := h
    obtain ⟨hfits, rfl⟩ := fits_of_ofNode? hj
    obtain ⟨hrest, rfl⟩ := fits_of_ofItems? hjs
    exact ⟨List.forall_mem_cons.mpr ⟨hfits, hrest⟩, rfl⟩
  | (some _, _) :: _ => cases h
theorem fits_of_ofFields? {cs : List (Option String × Node)} {fields : List (String × Json)}
    (h : ofFields? cs = some fields) :
    (∀ field ∈ fields, field.2.Fits) ∧ toFields fields = cs := by
  match cs with
  | [] =>
    cases h
    exact ⟨nofun, rfl⟩
  | (none, _) :: _ => cases h
  | (some name, n) :: rest =>
    simp only [ofFields?, Option.bind_eq_bind, Option.bind_eq_some_iff, Option.pure_def,
      Option.some.injEq] at h
    obtain ⟨j, hj, js, hjs, rfl⟩ := h
    obtain ⟨hfits, rfl⟩ := fits_of_ofNode? hj
    obtain ⟨hrest, rfl⟩ := fits_of_ofFields? hjs
    exact ⟨List.forall_mem_cons.mpr ⟨hfits, hrest⟩, rfl⟩
end

theorem ofNode?_eq_some {n : Node} {j : Json} : ofNode? n = some j ↔ j.Fits ∧ j.toNode = n := by
  constructor
  · exact fits_of_ofNode?
  · rintro ⟨hfits, rfl⟩
    exact ofNode?_toNode hfits

/-- What a document tells of the value that it comes from. A value whose integers fit is read back
from its document, with the items and fields in order and every scalar as it was, and nothing else
is read. So values with one document are the same, and integers are never taken for floating-point
numbers, not even if numbers are compared by what they stand for. -/
theorem toNode_lossless :
    (∀ n j, ofNode? n = some j ↔ j.Fits ∧ j.toNode = n) ∧
    (∀ v w : Json, v.Fits → w.Fits → (v.toNode = w.toNode ↔ v = w)) ∧
    ∀ (n : Int) (x : Binary64), (int n).Fits →
      (int n).toNode ≠ (float x).toNode ∧ (int n).toNode.numEq (float x).toNode = false := by
  refine ⟨fun n j => ofNode?_eq_some, fun v w hv hw => ?_, fun n x hn => ?_⟩
  · constructor
    · intro h
      have hread : some v = some w := by rw [← ofNode?_toNode hv, h, ofNode?_toNode hw]
      exact Option.some.inj hread
    · exact congrArg toNode
  · rw [toNode, toNode, intScalar_of_fits hn]
    exact ⟨nofun, rfl⟩

/-- Objects with the same fields in two orders, a least integer, and one as two kinds of number. -/
theorem toNode_lossless_order :
    let number : Json := .int (-0x8000000000000000)
    let v : Json := .object [("a", .array [number, .null]), ("b", .float ⟨0x3FF0000000000000⟩)]
    let w : Json := .object [("b", .float ⟨0x3FF0000000000000⟩), ("a", .array [number, .null])]
    v.Fits ∧ w.Fits ∧ ofNode? v.toNode = some v ∧ v.toNode ≠ w.toNode ∧
      (int 1).toNode ≠ (float ⟨0x3FF0000000000000⟩).toNode := by
  intro number v w
  have harray : (Json.array [number, .null]).Fits := by
    refine .array (List.forall_mem_cons.mpr ⟨.int (by decide) (by decide), ?_⟩)
    exact List.forall_mem_singleton.mpr .null
  have hv : v.Fits := .object (List.forall_mem_cons.mpr
    ⟨harray, List.forall_mem_singleton.mpr (.float _)⟩)
  have hw : w.Fits := .object (List.forall_mem_cons.mpr
    ⟨.float _, List.forall_mem_singleton.mpr harray⟩)
  have hone : (int 1).Fits := .int (by decide) (by decide)
  obtain ⟨hread, hsame, hnumber⟩ := toNode_lossless
  have hne : v ≠ w := by simp [v, w]
  exact ⟨hv, hw, (hread _ v).mpr ⟨hv, rfl⟩, fun h => hne ((hsame v w hv hw).mp h),
    (hnumber 1 _ hone).1⟩

/-- An integer that is one too large and the nearest floating-point number are one document. -/
example : (int 0x8000000000000000).toNode = (float ⟨0x43E0000000000000⟩).toNode :=
  rfl

end Gleaner.Json
