import Gleaner.Proofs.Json.Recovery
import Gleaner.Proofs.Yaml.Tagging
/-!
# Writing documents in YAML

What YAML has plain forms for is written plainly, and the four tags stand for the rest. A document
whose children are named as their containers want it is read back from the value that it is written
as (`toNode_ofNode`), in which no mapping repeats a key and every number fits. Which numbers a
floating-point scalar may have is left open: the value has no others than the document.
-/
namespace Gleaner

/-- Documents without names in lists and s-expressions, and with a name for every child of a struct,
none of them twice. All floating-point numbers are of the given kind. -/
inductive Node.Regular (float : Binary64 → Prop) : Node → Prop
  | null (k : Kind) : Regular float (.null k)
  | scalar {s : Scalar} (number : ∀ x, s = .float x → float x) : Regular float (.scalar s)
  | list {items : List Node} (parts : ∀ n ∈ items, Regular float n) : Regular float (.list items)
  | sexp {items : List Node} (parts : ∀ n ∈ items, Regular float n) : Regular float (.sexp items)
  | struct {fields : List (String × Node)} (distinct : (fields.map (·.1)).Nodup)
      (parts : ∀ field ∈ fields, Regular float field.2) : Regular float (.struct fields)

namespace Yaml.Value

/-- Values that can be there: the keys of a mapping differ, integers fit 64 bits with or without a
sign, and a tag has a name. All floating-point numbers are of the given kind. -/
inductive Formed (float : Binary64 → Prop) : Value → Prop
  | scalar {a : Atom} (fits : ∀ n, a = .int n → -0x8000000000000000 ≤ n ∧ n < 0x10000000000000000)
      (number : ∀ x, a = .float x → float x) : Formed float (.scalar a)
  | sequence {items : List Value} (parts : ∀ y ∈ items, Formed float y) :
      Formed float (.sequence items)
  | mapping {entries : List (Value × Value)} (distinct : distinctKeys entries = true)
      (keys : ∀ e ∈ entries, Formed float e.1) (values : ∀ e ∈ entries, Formed float e.2) :
      Formed float (.mapping entries)
  | tagged {tag : String} {y : Value} (named : tag ≠ "") (part : Formed float y) :
      Formed float (.tagged tag y)

def ofKind : Kind → Value
  | .null => .scalar .null
  | k => .tagged DocumentTag.null.shown (.scalar (.string k.name))

def ofScalar : Scalar → Value
  | .bool b => .scalar (.bool b)
  | .int n => .scalar (.int n.toInt)
  | .float x => .scalar (.float x)
  | .string s => .scalar (.string s)
  | .symbol s => .tagged DocumentTag.symbol.shown (.scalar (.string s))
  | .bytes bs =>
    .tagged DocumentTag.bytes.shown (.sequence (bs.map fun b => .scalar (.int b.toNat)))

mutual
def ofNode : Node → Value
  | .null k => ofKind k
  | .scalar s => ofScalar s
  | .container .list cs => .sequence (ofChildren cs)
  | .container .sexp cs => .tagged DocumentTag.sexp.shown (.sequence (ofChildren cs))
  | .container .struct cs => .mapping (ofNamed cs)
def ofChildren : List (Option String × Node) → List Value
  | [] => []
  | (_, n) :: rest => ofNode n :: ofChildren rest
def ofNamed : List (Option String × Node) → List (Value × Value)
  | [] => []
  | (name, n) :: rest => (.scalar (.string (name.getD "")), ofNode n) :: ofNamed rest
end

theorem ofTag?_shown (meant : DocumentTag) : DocumentTag.ofTag? meant.shown = some meant := by
  cases meant <;> rfl

theorem mapM_byte?_toNat (bs : List UInt8) :
    (bs.map fun b => (.scalar (.int b.toNat) : Value)).mapM byte? = some bs := by
  induction bs with
  | nil => rfl
  | cons b rest ih =>
    have hb : byte? (.scalar (.int b.toNat)) = some b := byte?_eq_some.mpr rfl
    rw [List.map_cons, List.mapM_cons, ih, hb]
    rfl

theorem toNode_ofKind (k : Kind) : toNode (ofKind k) = .ok (.null k) := by
  cases k <;> rfl

theorem toNode_ofScalar (s : Scalar) : toNode (ofScalar s) = .ok (.scalar s) := by
  cases s with
  | int n => rw [ofScalar, toNode, Atom.toNode, Json.intScalar_toInt]
  | symbol s =>
    have htext : text? (.scalar (.string s)) = some s := text?_eq_some.mpr rfl
    rw [ofScalar, toNode_leaf (ofTag?_shown .symbol) (by simp), taggedLeaf, htext]
  | bytes bs =>
    rw [ofScalar, toNode_leaf (ofTag?_shown .bytes) (by simp), taggedLeaf, mapM_byte?_toNat]
  | _ => rfl

theorem toNodes_ofChildren {items : List Node} (h : ∀ n ∈ items, toNode (ofNode n) = .ok n) :
    toNodes (ofChildren (items.map (none, ·))) = .ok items := by
  induction items with
  | nil => rfl
  | cons n rest ih =>
    obtain ⟨hn, hrest⟩ := List.forall_mem_cons.mp h
    rw [List.map_cons, ofChildren, toNodes, hn, ih hrest]

theorem toFields_ofNamed {fields : List (String × Node)}
    (h : ∀ field ∈ fields, toNode (ofNode field.2) = .ok field.2) :
    toFields (ofNamed (fields.map fun field => (some field.1, field.2))) = .ok fields := by
  induction fields with
  | nil => rfl
  | cons field rest ih =>
    obtain ⟨hfield, hrest⟩ := List.forall_mem_cons.mp h
    have hname : text? (.scalar (.string field.1)) = some field.1 := text?_eq_some.mpr rfl
    rw [List.map_cons, ofNamed, toFields, Option.getD_some, hname, hfield, ih hrest]

variable {float : Binary64 → Prop}

theorem toNode_ofNode {n : Node} (h : n.Regular float) : toNode (ofNode n) = .ok n := by
  induction h with
  | null k => exact toNode_ofKind k
  | scalar _ => exact toNode_ofScalar _
  | list _ ih =>
    rw [Node.list, ofNode, toNode, toNodes_ofChildren ih]
    rfl
  | sexp _ ih =>
    rw [Node.sexp, ofNode, toNode, ofTag?_shown, toNodes_ofChildren ih]
    rfl
  | struct _ _ ih =>
    rw [Node.struct, ofNode, toNode, toFields_ofNamed ih]
    rfl

theorem formed_string (s : String) : Formed float (.scalar (.string s)) := .scalar nofun nofun

theorem formed_ofKind (k : Kind) : Formed float (ofKind k) := by
  cases k with
  | null => exact .scalar nofun nofun
  | _ => exact .tagged (by decide) (formed_string _)

theorem formed_ofScalar {s : Scalar} (h : ∀ x, s = .float x → float x) :
    Formed float (ofScalar s) := by
  cases s with
  | bool b => exact .scalar nofun nofun
  | int n =>
    have hlo := n.le_toInt
    have hhi := n.toInt_lt
    refine .scalar (fun m hm => ?_) nofun
    cases hm
    omega
  | float x =>
    refine .scalar nofun fun y hy => ?_
    cases hy
    exact h x rfl
  | string s => exact formed_string s
  | symbol s => exact .tagged (by decide) (formed_string s)
  | bytes bs =>
    refine .tagged (by decide) (.sequence fun y hy => ?_)
    obtain ⟨b, _, rfl⟩ := List.mem_map.mp hy
    have hb := b.toNat_lt
    refine .scalar (fun m hm => ?_) nofun
    cases hm
    omega

theorem mem_ofChildren {items : List Node} {y : Value} :
    y ∈ ofChildren (items.map (none, ·)) ↔ ∃ n ∈ items, ofNode n = y := by
  induction items with
  | nil => simp [ofChildren]
  | cons n rest ih => simp [ofChildren, ih, eq_comm]

theorem mem_ofNamed {fields : List (String × Node)} {e : Value × Value} :
    e ∈ ofNamed (fields.map fun field => (some field.1, field.2)) ↔
      ∃ field ∈ fields, (.scalar (.string field.1), ofNode field.2) = e := by
  induction fields with
  | nil => simp [ofNamed]
  | cons field rest ih => simp [ofNamed, ih, eq_comm]

theorem distinctKeys_ofNamed {fields : List (String × Node)} (h : (fields.map (·.1)).Nodup) :
    distinctKeys (ofNamed (fields.map fun field => (some field.1, field.2))) = true := by
  induction fields with
  | nil => rfl
  | cons field rest ih =>
    obtain ⟨hfield, hrest⟩ := List.nodup_cons.mp h
    rw [List.map_cons, ofNamed, distinctKeys, ih hrest, Bool.and_true, Bool.not_eq_true',
      List.any_eq_false]
    intro e he hsame
    obtain ⟨other, hother, rfl⟩ := mem_ofNamed.mp he
    have hname : other.1 = field.1 := by simpa [same, Atom.same, eq_comm] using hsame
    exact hfield (List.mem_map.mpr ⟨other, hother, hname⟩)

theorem formed_ofNode {n : Node} (h : n.Regular float) : Formed float (ofNode n) := by
  have hitems : ∀ {items : List Node}, (∀ n ∈ items, Formed float (ofNode n)) →
      Formed float (.sequence (ofChildren (items.map (none, ·)))) := by
    refine fun ih => .sequence fun y hy => ?_
    obtain ⟨n, hn, rfl⟩ := mem_ofChildren.mp hy
    exact ih n hn
  induction h with
  | null k => exact formed_ofKind k
  | scalar number => exact formed_ofScalar number
  | list _ ih => exact hitems ih
  | sexp _ ih => exact .tagged (by decide) (hitems ih)
  | struct distinct _ ih =>
    refine .mapping (distinctKeys_ofNamed distinct) (fun e he => ?_) (fun e he => ?_)
    · obtain ⟨field, _, rfl⟩ := mem_ofNamed.mp he
      exact formed_string field.1
    · obtain ⟨field, hfield, rfl⟩ := mem_ofNamed.mp he
      exact ih field hfield

/-- Every document whose children are named as their containers want it can be written in YAML, with
no floating-point numbers but of the kind that its own ones are of. Nulls are written by the names
of their kinds, and these are all the names that are read. -/
theorem exists_value_of_node :
    (∀ (float : Binary64 → Prop) (n : Node), n.Regular float →
      ∃ y : Value, Formed float y ∧ y.toNode = .ok n) ∧
    ∀ name k, Kind.ofName? name = some k ↔ name = k.name :=
  ⟨fun _ n h => ⟨ofNode n, formed_ofNode h, toNode_ofNode h⟩, fun _ _ => Kind.ofName?_eq_some⟩

/-- A document with a null of kind list, a symbol with a blank, extreme integers, the smallest
positive number and bytes, in containers of all forms. -/
theorem exists_value_of_node_mixed :
    let finite : Binary64 → Prop := fun x => x.isFinite = true
    let numbers : Node := .sexp [.scalar (.int Int64.minValue), .scalar (.float ⟨1⟩), .list []]
    let document : Node := .struct [("b", .list [.null .list, .null .null, numbers]),
      ("a", .scalar (.symbol "x y")), ("", .scalar (.bytes [0, 255]))]
    document.Regular finite ∧ ∃ y : Value, Formed finite y ∧ y.toNode = .ok document := by
  intro finite numbers document
  have hplain : ∀ s : Scalar, (∀ x, s ≠ .float x) → Node.Regular finite (.scalar s) :=
    fun s hs => .scalar fun x hx => absurd hx (hs x)
  have hnumbers : numbers.Regular finite := by
    refine .sexp (List.forall_mem_cons.mpr ⟨hplain _ nofun, List.forall_mem_cons.mpr ⟨?_, ?_⟩⟩)
    · refine .scalar fun x hx => ?_
      cases hx
      decide
    · exact List.forall_mem_singleton.mpr (.list nofun)
  have hdocument : document.Regular finite := by
    refine .struct (by decide) (List.forall_mem_cons.mpr ⟨.list ?_, List.forall_mem_cons.mpr
      ⟨hplain _ nofun, List.forall_mem_singleton.mpr (hplain _ nofun)⟩⟩)
    exact List.forall_mem_cons.mpr ⟨.null _, List.forall_mem_cons.mpr
      ⟨.null _, List.forall_mem_singleton.mpr hnumbers⟩⟩
  exact ⟨hdocument, exists_value_of_node.1 finite document hdocument⟩

end Yaml.Value

end Gleaner
