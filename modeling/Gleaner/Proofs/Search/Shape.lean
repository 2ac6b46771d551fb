import Gleaner.Predicate.Matcher
import Gleaner.Proofs.Search.Summary
/-!
# Reading a record back

The record of a search that succeeds is a flat list, but every step of a container tells how many
children it has. Read from its end, the record can be folded up again: a container takes as many
shapes from the front of what has been read after it as it has children (`Shape.add`). So the shape
of the document, which is all of it but field names and the values of scalars, can be read off the
record.
-/
namespace Gleaner

/-- What remains of a document without field names and the values of scalars. -/
inductive Shape where
  | null (kind : Kind)
  | scalar (kind : Kind)
  | container (form : Form) (children : List Shape)

namespace Node

mutual
def shape : Node → Shape
  | .null k => .null k
  | .scalar s => .scalar s.kind
  | .container form cs => .container form (shapes cs)
def shapes : List (Option String × Node) → List Shape
  | [] => []
  | (_, n) :: rest => shape n :: shapes rest
end

theorem shapes_eq_map (cs : List (Option String × Node)) :
    shapes cs = cs.map fun c => c.2.shape := by
  induction cs with
  | nil => rfl
  | cons c rest ih => rw [shapes, ih, List.map_cons]

/-- Two nodes that look the same without what is in them: they are of one kind, both nulls or
neither, both containers or neither, with as many children. -/
structure Resembles (m n : Node) : Prop where
  kind : m.kind = n.kind
  isNull : m.isNull = n.isNull
  isContainer : m.isContainer = n.isContainer
  children : m.children.length = n.children.length

theorem shapes_of_shape {m n : Node} (h : m.shape = n.shape) :
    shapes m.children = shapes n.children := by
  cases m <;> cases n <;> simp_all [shape, children, shapes]

theorem resembles_of_shape {m n : Node} (h : m.shape = n.shape) : m.Resembles n := by
  have hchildren : m.children.length = n.children.length := by
    have hlength := congrArg List.length (shapes_of_shape h)
    simpa [shapes_eq_map] using hlength
  cases m with
  | null k =>
    cases n with
    | null l => exact ⟨Shape.null.inj h, rfl, rfl, hchildren⟩
    | _ => cases h
  | scalar s =>
    cases n with
    | scalar t => exact ⟨Shape.scalar.inj h, rfl, rfl, hchildren⟩
    | _ => cases h
  | container form cs =>
    cases n with
    | container other ds =>
      exact ⟨congrArg Form.kind (Shape.container.inj h).1, rfl, rfl, hchildren⟩
    | _ => cases h

theorem resembles_at? {m n : Node} (h : m.shape = n.shape) (address : List Nat) :
    Option.Rel Resembles (m.at? address) (n.at? address) := by
  induction address generalizing m n with
  | nil => exact .some (resembles_of_shape h)
  | cons i rest ih =>
    have hchildren : m.children.map (·.2.shape) = n.children.map (·.2.shape) := by
      rw [← shapes_eq_map, ← shapes_eq_map, shapes_of_shape h]
    have hchild : m.children[i]?.map (·.2.shape) = n.children[i]?.map (·.2.shape) := by
      rw [← List.getElem?_map, ← List.getElem?_map, hchildren]
    rw [at?_cons, at?_cons]
    cases hm : m.children[i]? with
    | none =>
      rw [hm, Option.map_none, eq_comm, Option.map_eq_none_iff] at hchild
      rw [hchild]
      exact .none
    | some c =>
      rw [hm, Option.map_some, eq_comm, Option.map_eq_some_iff] at hchild
      obtain ⟨d, hn, hshape⟩ := hchild
      rw [hn]
      exact ih hshape.symm

end Node

/-- The form of containers of a kind. Kinds of leaves have none, and stand for lists here. -/
def Form.ofKind : Kind → Form
  | .sexp => .sexp
  | .struct => .struct
  | _ => .list

theorem Form.ofKind_kind (form : Form) : ofKind form.kind = form := by
  cases form <;> rfl

namespace Shape

def add (s : Step) (later : List Shape) : List Shape :=
  match s.outcome with
  | .skippedNull => .null s.kind :: later
  | .descended children =>
    .container (.ofKind s.kind) (later.take children) :: later.drop children
  | _ => .scalar s.kind :: later

/-- The shape of the document that a record is of. -/
def ofSteps (steps : List Step) : Option Shape := (steps.foldr add []).head?

theorem ofSteps_congr {steps others : List Step} (h : steps.map add = others.map add) :
    ofSteps steps = ofSteps others := by
  have hcompose : ∀ steps : List Step,
      ofSteps steps = ((steps.map add).foldr (fun put later => put later) []).head? := by
    intro steps
    rw [ofSteps, List.foldr_map]
  rw [hcompose, hcompose, h]

end Shape

namespace Query

variable {q : Query}

theorem outcome_scalar {depth : Nat} {s : Scalar} (h : q.failure? ⟨depth, .scalar s⟩ = none) :
    q.outcome ⟨depth, .scalar s⟩ = .matched ∨ q.outcome ⟨depth, .scalar s⟩ = .rejected ∨
      q.outcome ⟨depth, .scalar s⟩ = .notText := by
  obtain ⟨hlevel, htest⟩ := failure?_eq_none.mp h
  rw [outcome, if_neg (Nat.not_lt.mpr hlevel)]
  cases s with
  | string text =>
    rcases hverdict : q.test text with source | _ | _
    · exact absurd hverdict (htest text source rfl)
    · simp [hverdict]
    · simp [hverdict]
  | _ => simp

/-- The step of a place that does not fail puts the shapes of its children together. -/
theorem add_step {p : Place} (h : q.failure? p = none) (i : Nat) (later : List Shape) :
    Shape.add (q.step i p) (Node.shapes p.node.children ++ later) = p.node.shape :: later := by
  have hlevel : ¬q.maxDepth < p.depth := Nat.not_lt.mpr (failure?_eq_none.mp h).1
  obtain ⟨depth, node⟩ := p
  cases node with
  | null k =>
    simp [Shape.add, step, outcome, hlevel, Node.shapes, Node.children, Node.shape, Node.kind]
  | scalar s =>
    rcases outcome_scalar h with hout | hout | hout <;>
      simp [Shape.add, step, hout, Node.shapes, Node.children, Node.shape, Node.kind]
  | container form cs =>
    have hout : q.outcome ⟨depth, .container form cs⟩ = .descended cs.length := by
      rw [outcome, if_neg hlevel]
    have hlength : (Node.shapes cs).length = cs.length := by
      rw [Node.shapes_eq_map, List.length_map]
    simp only [Shape.add, step, hout, Node.children, Node.shape, Node.kind, Form.ofKind_kind]
    rw [← hlength, List.take_left, List.drop_left]

theorem foldr_add_steps {pending : List Place}
    (h : ∀ p ∈ Place.listing pending, q.failure? p = none) (later : List Shape) :
    ((Place.listing pending).map (q.step 0)).foldr Shape.add later =
      pending.map (·.node.shape) ++ later := by
  induction pending using Place.pending_induction with
  | nil => rfl
  | step p rest ih =>
    -- what is folded first are the children of the first place, in front of the other places
    rw [Place.listing_step] at h ⊢
    obtain ⟨hp, hrest⟩ := List.forall_mem_cons.mp h
    have hopen : (p.open rest).map (·.node.shape) =
        Node.shapes p.node.children ++ rest.map (·.node.shape) := by
      simp [Place.open, Place.below, Node.shapes_eq_map]
    rw [List.map_cons, List.foldr_cons, ih hrest, hopen, List.append_assoc, add_step hp,
      List.map_cons, List.cons_append]

end Query

namespace Finder

variable {f g : Finder} {a b : Node} {found others : List String}

/-- The record of a search that succeeds is folded up to the shape of the document. -/
theorem ofSteps_of_ok (h : (f.trace a).result = .ok found) :
    Shape.ofSteps (f.trace a).steps = some a.shape := by
  have hfind : f.find a = .ok found := by
    rw [find_eq_report, report_eq]
    exact (f.trace_result a).symm.trans h
  obtain ⟨hreached, hnone, _⟩ := reached_of_ok hfind
  -- steps are numbered in the order of visits, and folding does not look at the numbers
  have hadd : (f.trace a).steps.map Shape.add =
      (a.preorder.map (f.query.step 0)).map Shape.add := by
    rw [f.map_steps a Shape.add (fun p => Shape.add (f.query.step 0 p)) fun _ _ => rfl, hreached,
      List.map_map]
    rfl
  have hroot : ∀ p ∈ Place.listing [⟨0, a⟩], f.query.failure? p = none := by
    rw [Place.listing_root]
    exact hnone
  have hshape := Query.foldr_add_steps hroot []
  rw [Place.listing_root] at hshape
  rw [Shape.ofSteps_congr hadd, Shape.ofSteps, hshape]
  rfl

/-- The record of a search that succeeds settles the shape of the document, whatever is searched for
and to what depth. Two documents with one record have the same containers, with the same kinds and
numbers of children, and nulls and scalars of the same kinds, all at the same addresses. -/
theorem shape_of_steps (ha : (f.trace a).result = .ok found) (hb : (g.trace b).result = .ok others)
    (hsteps : (f.trace a).steps = (g.trace b).steps) :
    a.shape = b.shape ∧ (∀ address, Option.Rel Node.Resembles (a.at? address) (b.at? address)) ∧
      Shape.ofSteps (f.trace a).steps = some a.shape := by
  have hread := ofSteps_of_ok ha
  have hshape : some a.shape = some b.shape := by
    rw [← hread, hsteps, ofSteps_of_ok hb]
  have hsame : a.shape = b.shape := Option.some.inj hshape
  exact ⟨hsame, Node.resembles_at? hsame, hread⟩

/-- A null that is declared as a list and an empty list, under different names, in searches for
different texts. -/
theorem shape_of_steps_null :
    let a : Node := .struct [("x", .text "t"), ("y", .null .list), ("y", .list [])]
    let b : Node := .struct [("p", .text "u"), ("q", .null .list), ("r", .list [])]
    let f : Finder := ⟨.check .acceptAll, 1⟩
    let g : Finder := ⟨.named "u" (.ofCheck (Matcher.literal .exact "u" false).check), 7⟩
    (f.trace a).result = .ok ["t"] ∧ (g.trace b).result = .ok ["u"] ∧
      (f.trace a).steps = (g.trace b).steps ∧ a.shape = b.shape ∧
      Option.Rel Node.Resembles (a.at? [1]) (b.at? [1]) := by
  intro a b f g
  have ha : (f.trace a).result = .ok ["t"] := by
    rw [trace_result]
    rfl
  have hb : (g.trace b).result = .ok ["u"] := by
    rw [trace_result]
    rfl
  have hsteps : (f.trace a).steps = (g.trace b).steps := by
    rw [trace_steps, trace_steps]
    rfl
  obtain ⟨hshape, haddress, _⟩ := shape_of_steps ha hb hsteps
  exact ⟨ha, hb, hsteps, hshape, haddress [1]⟩

end Finder

end Gleaner
