import Gleaner.Proofs.Document.Depth
import Mathlib.Order.Nat
import Mathlib.Logic.Function.Iterate
/-!
# Measuring in any order

`Node.depth` opens pending places in front of the others, so it goes through a document in
pre-order. A stack that is pushed the children in stored order goes through them from the last to
the first, and there are other orders. A `Survey` is a measurement under way, one `Step` of it
visits whichever place is pending, and a `Run` is a number of such steps. Each step gives up one of
the nodes still to be visited (`Step.weight_eq`) and keeps the depth to be found
(`Step.depthFrom_eq`). All runs of a document that leave nothing pending therefore have as many
steps as it has nodes, and have met the same depth (`depth_of_runs`).
-/
namespace Gleaner

namespace Place

theorem weight_perm {pending other : List Place} (h : pending.Perm other) :
    weight pending = weight other := by
  induction h with
  | nil => rfl
  | cons p _ ih => rw [weight_cons, weight_cons, ih]
  | swap p q rest =>
    simp only [weight_cons]
    omega
  | trans _ _ ihfirst ihsecond => rw [ihfirst, ihsecond]

theorem weight_eq_zero {pending : List Place} : weight pending = 0 ↔ pending = [] := by
  cases pending with
  | nil => simp
  | cons p rest =>
    have hpos := p.node.size_pos
    rw [weight_cons]
    simp
    omega

end Place

namespace Node

/-- A bound on what measuring finds is one on the height of each pending tree, added to the depth at
which it is pending. -/
theorem depthFrom_le_iff_height {deepest bound : Nat} {pending : List Place} :
    depthFrom deepest pending ≤ bound ↔
      deepest ≤ bound ∧ ∀ p ∈ pending, p.depth + p.node.height ≤ bound := by
  rw [depthFrom_le_iff, Place.listing, List.forall_mem_flatMap]
  simp only [depth_preorderFrom_le_iff]

theorem depthFrom_perm {pending other : List Place} (h : pending.Perm other) (deepest : Nat) :
    depthFrom deepest pending = depthFrom deepest other := by
  refine eq_of_forall_ge_iff fun bound => ?_
  rw [depthFrom_le_iff_height, depthFrom_le_iff_height]
  simp only [h.mem_iff]

theorem heightAll_eq_max? (cs : List (Option String × Node)) :
    heightAll cs = (cs.map fun c => c.2.height).max?.elim 0 (1 + ·) := by
  induction cs with
  | nil => rfl
  | cons c rest ih =>
    obtain ⟨name, n⟩ := c
    rw [heightAll, ih, List.map_cons, List.max?_cons]
    cases (rest.map fun c => c.2.height).max? <;> simp only [Option.elim] <;> omega

theorem depth_eq_max? (n : Node) :
    n.depth = match (n.children.map fun c => c.2.depth).max? with
      | none => 0
      | some deepest => 1 + deepest := by
  have hheight : n.height = heightAll n.children := by cases n <;> rfl
  simp only [depth_eq_height]
  rw [hheight, heightAll_eq_max?]
  cases (n.children.map fun c => c.2.height).max? <;> rfl

end Node

/-- A measurement under way: the greatest depth met so far, and the places that are pending. -/
structure Survey where
  deepest : Nat
  pending : List Place

namespace Survey

def start (root : Node) : Survey := ⟨0, [⟨0, root⟩]⟩

/-- One step visits any place that is pending and leaves its children pending with the other places,
in any arrangement. -/
inductive Step : Survey → Survey → Prop
  | visit {deepest : Nat} {p : Place} {pending rest left : List Place}
      (taken : pending.Perm (p :: rest)) (kept : left.Perm (p.open rest)) :
      Step ⟨deepest, pending⟩ ⟨max deepest p.depth, left⟩

/-- A number of steps, each of them with a choice of its own. -/
inductive Run : Nat → Survey → Survey → Prop
  | zero (s : Survey) : Run 0 s s
  | succ {steps : Nat} {s t u : Survey} : Step s t → Run steps t u → Run (steps + 1) s u

/-- The step of a stack, which is kept from the top. The top is visited, and its children are pushed
in stored order, which leaves the last child on top. -/
def pop (s : Survey) : Survey :=
  match s.pending with
  | [] => s
  | p :: rest => ⟨max s.deepest p.depth, (Place.below p.depth p.node.children).reverse ++ rest⟩

theorem Step.weight_eq {s t : Survey} (h : Step s t) :
    Place.weight s.pending = Place.weight t.pending + 1 := by
  obtain ⟨taken, kept⟩ := h
  rw [Place.weight_perm taken, Place.weight_perm kept, Place.weight_step]

/-- What is found from here on does not depend on the place that is visited next. -/
theorem Step.depthFrom_eq {s t : Survey} (h : Step s t) :
    Node.depthFrom s.deepest s.pending = Node.depthFrom t.deepest t.pending := by
  obtain ⟨taken, kept⟩ := h
  rw [Node.depthFrom_perm taken, Node.depthFrom_perm kept, Node.depthFrom_cons]

theorem step_pop {s : Survey} (h : s.pending ≠ []) : Step s s.pop := by
  obtain ⟨deepest, pending⟩ := s
  cases pending with
  | nil => exact absurd rfl h
  | cons p rest =>
    apply Step.visit (List.Perm.refl _)
    exact (List.reverse_perm _).append_right rest

theorem Run.weight_eq {steps : Nat} {s t : Survey} (h : Run steps s t) :
    steps + Place.weight t.pending = Place.weight s.pending := by
  induction h with
  | zero s => rw [Nat.zero_add]
  | succ first _ ih =>
    have hfirst := first.weight_eq
    omega

theorem Run.depthFrom_eq {steps : Nat} {s t : Survey} (h : Run steps s t) :
    Node.depthFrom s.deepest s.pending = Node.depthFrom t.deepest t.pending := by
  induction h with
  | zero s => rfl
  | succ first _ ih => rw [first.depthFrom_eq, ih]

/-- A run that leaves nothing pending has met the depth that measuring finds. -/
theorem Run.eq_of_pending {steps : Nat} {s t : Survey} (h : Run steps s t)
    (hdone : t.pending = []) :
    t = ⟨Node.depthFrom s.deepest s.pending, []⟩ := by
  obtain ⟨deepest, pending⟩ := t
  obtain rfl : pending = [] := hdone
  rw [h.depthFrom_eq, Node.depthFrom]

/-- Measuring is itself a run, which always visits the first pending place. -/
theorem run_depthFrom (deepest : Nat) (pending : List Place) :
    Run (Place.weight pending) ⟨deepest, pending⟩ ⟨Node.depthFrom deepest pending, []⟩ := by
  induction pending using Place.pending_induction generalizing deepest with
  | nil =>
    rw [Node.depthFrom]
    exact Run.zero _
  | step p rest ih =>
    rw [Place.weight_step, Node.depthFrom_cons]
    have hfirst : Step ⟨deepest, p :: rest⟩ ⟨max deepest p.depth, p.open rest⟩ :=
      Step.visit (List.Perm.refl _) (List.Perm.refl _)
    exact Run.succ hfirst (ih _)

theorem run_iterate_pop {steps : Nat} {s : Survey} (h : steps ≤ Place.weight s.pending) :
    Run steps s (pop^[steps] s) := by
  induction steps generalizing s with
  | zero => exact Run.zero s
  | succ steps ih =>
    have hpending : s.pending ≠ [] := by
      intro hnil
      rw [hnil, Place.weight_nil] at h
      omega
    have hfirst := step_pop hpending
    have hweight := hfirst.weight_eq
    rw [Function.iterate_succ_apply]
    exact Run.succ hfirst (ih (by omega))

section Document

variable {n : Node} {steps : Nat} {s : Survey}

theorem weight_start (n : Node) : Place.weight (start n).pending = n.size := by
  simp [start]

theorem Run.pending_eq_nil_iff (h : Run steps (start n) s) : s.pending = [] ↔ steps = n.size := by
  have hweight := h.weight_eq
  rw [weight_start] at hweight
  rw [← Place.weight_eq_zero]
  omega

theorem Run.exists_step (h : Run steps (start n) s) (hfewer : steps < n.size) : ∃ t, Step s t := by
  have hpending : s.pending ≠ [] := by
    intro hnil
    have hsize := h.pending_eq_nil_iff.mp hnil
    omega
  exact ⟨s.pop, step_pop hpending⟩

theorem Run.eq_of_size (h : Run n.size (start n) s) : s = ⟨n.depth, []⟩ := by
  have hpending : s.pending = [] := h.pending_eq_nil_iff.mpr rfl
  exact h.eq_of_pending hpending

/-- Measuring a document ends, and finds its depth in whichever order pending places are visited. No
run has more steps than the document has nodes, one with fewer can go on, and one with as many has
nothing pending and has met the depth. The order in which `depth` itself goes is that of such a run,
and so is that of a stack. The depth is that of the deepest child and one more, and none where there
are no children. -/
theorem depth_of_runs (n : Node) :
    (∀ steps s, Run steps (start n) s → steps ≤ n.size ∧
      (steps < n.size → ∃ t, Step s t) ∧ (steps = n.size → s = ⟨n.depth, []⟩)) ∧
    Run n.size (start n) ⟨n.depth, []⟩ ∧
    (∀ steps < n.size, (pop^[steps] (start n)).pending ≠ []) ∧
    pop^[n.size] (start n) = ⟨n.depth, []⟩ ∧
    n.depth = match (n.children.map fun c => c.2.depth).max? with
      | none => 0
      | some deepest => 1 + deepest := by
  have hsize := weight_start n
  have hstack : ∀ steps ≤ n.size, Run steps (start n) (pop^[steps] (start n)) := by
    intro steps hsteps
    exact run_iterate_pop (by omega)
  refine ⟨?_, ?_, ?_, ?_, n.depth_eq_max?⟩
  · intro steps s hrun
    have hweight := hrun.weight_eq
    refine ⟨by omega, hrun.exists_step, ?_⟩
    rintro rfl
    exact hrun.eq_of_size
  · rw [← hsize]
    exact run_depthFrom 0 [⟨0, n⟩]
  · intro steps hfewer hnil
    have hended := (hstack steps (by omega)).pending_eq_nil_iff.mp hnil
    omega
  · exact (hstack n.size (Nat.le_refl _)).eq_of_size

end Document

end Survey

end Gleaner
