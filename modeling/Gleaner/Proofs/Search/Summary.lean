import Gleaner.Proofs.Search.Bound
import Gleaner.Proofs.Search.Trace
/-!
# What a record adds up to

The numbers that can be read off the record of a search are those that are found without it. The
steps that matched are as many as the texts found, all steps are as many as the nodes visited, and
the deepest step of a search that succeeds lies as deep as the document nests. Every node but the
root is visited because a container before it was opened, so the children that containers left to be
visited are all the other steps.
-/
namespace Gleaner

/-- The number of children that a step leaves to be visited. -/
def Outcome.children : Outcome → Nat
  | .descended children => children
  | _ => 0

namespace Query

variable {q : Query} {places : List Place}

theorem children_outcome {p : Place} (h : q.failure? p = none) :
    (q.outcome p).children = p.node.children.length := by
  rw [outcome, if_neg (Nat.not_lt.mpr (failure?_eq_none.mp h).1)]
  obtain ⟨depth, node⟩ := p
  cases node with
  | null k => rfl
  | container form cs => rfl
  | scalar s =>
    cases s with
    | string text =>
      rcases htest : q.test text with source | _ | _ <;>
        simp [htest, Outcome.children, Node.children]
    | _ => rfl

theorem countP_matched (h : ∀ p ∈ places, q.failure? p = none) :
    places.countP (q.outcome · == .matched) = (places.filterMap q.accepted?).length := by
  induction places with
  | nil => rfl
  | cons p rest ih =>
    obtain ⟨hp, hrest⟩ := List.forall_mem_cons.mp h
    rw [List.countP_cons, ih hrest]
    rcases q.outcome_cases p with ⟨hfails, _⟩ | ⟨_, ⟨text, haccept⟩, hout⟩ | ⟨_, hnone, hout, _⟩
    · simp [fails, hp] at hfails
    · simp [haccept, hout]
    · simp [hnone, hout]

end Query

namespace Finder

variable (f : Finder) (root : Node)

theorem map_steps {α : Type} (read : Step → α) (value : Place → α)
    (h : ∀ i p, read (f.query.step i p) = value p) :
    (f.trace root).steps.map read = (f.query.reached root.preorder).map value := by
  rw [trace_steps]
  refine List.ext_getElem (by simp) fun i _ _ => ?_
  simp [h]

theorem length_steps : (f.trace root).steps.length = (f.query.reached root.preorder).length := by
  rw [trace_steps, List.length_mapIdx]

theorem count_steps (o : Outcome) : (f.trace root).count o =
    (f.query.reached root.preorder).countP (f.query.outcome · == o) := by
  have hcount := congrArg (List.countP (· == o))
    (f.map_steps root (·.outcome) f.query.outcome fun _ _ => rfl)
  rwa [List.countP_map, List.countP_map] at hcount

theorem maxDepth?_steps : (f.trace root).maxDepth? =
    ((f.query.reached root.preorder).map (·.depth)).max? := by
  rw [FindTrace.maxDepth?, f.map_steps root _ (·.depth) fun _ _ => rfl]

theorem count_eq_find : f.count root = (f.find root).map List.length := by
  rw [count_eq, find_eq_report, report_eq]

/-- A search gives one notice, which tells how many steps its record has. -/
theorem notices_eq : f.notices root = [match f.find root with
    | .ok found => .findSuccess f.predicate.name (f.trace root).steps.length found.length
    | .error error => .findFailure f.predicate.name (f.trace root).steps.length error] := by
  rw [notices, logged, event, find_eq_report, report_eq, length_steps]
  cases f.query.answer root <;> rfl

variable {f root}

section Success

variable {found : List String} (h : f.find root = .ok found)
include h

theorem reached_of_ok : f.query.reached root.preorder = root.preorder ∧
    (∀ p ∈ root.preorder, f.query.failure? p = none) ∧
    found = root.preorder.filterMap f.query.accepted? := by
  rw [find_eq_report, report_eq, Query.answer] at h
  have hnone : ∀ p ∈ root.preorder, f.query.failure? p = none := Query.answerOf_isOk.mp ⟨found, h⟩
  have hfind : root.preorder.findSome? f.query.failure? = none :=
    List.findSome?_eq_none_iff.mpr hnone
  rw [Query.answerOf, hfind] at h
  exact ⟨Query.reached_of_answer hfind, hnone, (Except.ok.inj h).symm⟩

theorem count_matched_of_ok : (f.trace root).count .matched = found.length := by
  obtain ⟨hreached, hnone, rfl⟩ := reached_of_ok h
  rw [count_steps, hreached, Query.countP_matched hnone]

theorem maxDepth?_of_ok : (f.trace root).maxDepth? = some root.depth := by
  obtain ⟨hreached, _⟩ := reached_of_ok h
  rw [maxDepth?_steps, hreached, root.max?_depth_preorder]

theorem length_steps_of_ok :
    (f.trace root).steps.length = 1 + ((f.trace root).steps.map (·.outcome.children)).sum := by
  obtain ⟨hreached, hnone, _⟩ := reached_of_ok h
  -- The root is pending at first, and every other place of the listing is the child of one of them.
  have hlisting := Place.listing_length_eq_children [⟨0, root⟩]
  rw [Place.listing_root, List.length_singleton] at hlisting
  have hchildren : root.preorder.map (fun p => p.node.children.length) =
      root.preorder.map fun p => (f.query.outcome p).children :=
    List.map_congr_left fun p hp => (Query.children_outcome (hnone p hp)).symm
  have hsteps := f.map_steps root (·.outcome.children) (fun p => (f.query.outcome p).children)
    fun _ _ => rfl
  rw [length_steps, hsteps, hreached, hlisting, hchildren]

end Success

theorem forall_mem_depths {front : List Place} {p : Place} {bound : Nat}
    (hfront : ∀ x ∈ front, x.depth ≤ bound) (hp : p.depth ≤ bound) :
    ∀ depth ∈ (front ++ [p]).map (·.depth), depth ≤ bound := by
  have hlevels : ∀ x ∈ front ++ [p], x.depth ≤ bound :=
    List.forall_mem_append.mpr ⟨hfront, List.forall_mem_singleton.mpr hp⟩
  exact List.forall_mem_map.mpr hlevels

/-- A search that fails reaches one failing place, and places within the bound before it. -/
theorem reached_of_error {error : FindError} (h : f.find root = .error error) :
    ∃ front p, f.query.reached root.preorder = front ++ [p] ∧
      (∀ x ∈ front, x.depth ≤ f.maxDepth) ∧ f.query.failure? p = some error := by
  rw [find_eq_report, report_eq] at h
  obtain ⟨front, p, _, _, hreached, hfront, hp⟩ :=
    Query.reached_of_failure (Query.answerOf_eq_error.mp h)
  exact ⟨front, p, hreached, fun x hx => (Query.failure?_eq_none.mp (hfront x hx)).1, hp⟩

theorem maxDepth?_of_depthExceeded {depth max : Nat}
    (h : f.find root = .error (.depthExceeded depth max)) :
    (f.trace root).maxDepth? = some (f.maxDepth + 1) := by
  obtain ⟨front, p, hreached, hfront, hp⟩ := reached_of_error h
  rcases Query.failure?_eq_some.mp hp with ⟨_, herror⟩ | ⟨_, _, _, _, _, herror⟩
  · obtain ⟨rfl, rfl⟩ := FindError.depthExceeded.inj herror
    rw [find_eq_report, report_eq] at h
    obtain ⟨_, hdepth, _⟩ := Query.answer_depthExceeded h
    have hlast : p.depth = f.maxDepth + 1 := hdepth
    have hmem : p.depth ∈ (front ++ [p]).map (·.depth) := List.mem_map_of_mem List.mem_concat_self
    have hbefore : ∀ x ∈ front, x.depth ≤ p.depth := fun x hx => by
      have hlevel := hfront x hx
      omega
    rw [maxDepth?_steps, hreached, ← hlast]
    exact List.max?_eq_some_iff.mpr ⟨hmem, forall_mem_depths hbefore (Nat.le_refl _)⟩
  · cases herror

theorem maxDepth?_of_predicateFailure {name : String} {depth : Nat} {source : Failure}
    (h : f.find root = .error (.predicateFailure name depth source)) :
    ∃ deepest ≤ f.maxDepth, (f.trace root).maxDepth? = some deepest := by
  obtain ⟨front, p, hreached, hfront, hp⟩ := reached_of_error h
  rcases Query.failure?_eq_some.mp hp with ⟨_, herror⟩ | ⟨hlevel, _⟩
  · cases herror
  · have hmem : p.depth ∈ (front ++ [p]).map (·.depth) := List.mem_map_of_mem List.mem_concat_self
    rw [maxDepth?_steps, hreached]
    obtain ⟨deepest, hdeepest⟩ := Option.isSome_iff_exists.mp (List.isSome_max?_of_mem hmem)
    obtain ⟨hvisited, _⟩ := List.max?_eq_some_iff.mp hdeepest
    exact ⟨deepest, forall_mem_depths hfront hlevel deepest hvisited, hdeepest⟩

/-- What the record of a search adds up to. Of a search that succeeds, the steps that matched are as
many as the texts found, the deepest step lies as deep as the document nests, and there is a step
for the root and for each child that was left to be visited. Of a search that fails for depth the
deepest step lies right below the bound, and of one whose test fails it lies within the bound. In
both cases counting gives what searching gives, and searching gives one notice, which tells the
number of steps. -/
theorem trace_sums (f : Finder) (root : Node) : match f.find root with
    | .ok found => (f.trace root).count .matched = found.length ∧
        f.count root = .ok found.length ∧
        (f.trace root).maxDepth? = some root.depth ∧
        (f.trace root).steps.length = 1 + ((f.trace root).steps.map (·.outcome.children)).sum ∧
        f.notices root =
          [.findSuccess f.predicate.name (f.trace root).steps.length found.length]
    | .error error => f.count root = .error error ∧
        (match error with
          | .depthExceeded _ _ => (f.trace root).maxDepth? = some (f.maxDepth + 1)
          | .predicateFailure _ _ _ =>
            ∃ deepest ≤ f.maxDepth, (f.trace root).maxDepth? = some deepest) ∧
        f.notices root = [.findFailure f.predicate.name (f.trace root).steps.length error] := by
  have hcount := f.count_eq_find root
  have hnotices := f.notices_eq root
  cases hfind : f.find root with
  | ok found =>
    rw [hfind] at hcount hnotices
    exact ⟨count_matched_of_ok hfind, hcount, maxDepth?_of_ok hfind, length_steps_of_ok hfind,
      hnotices⟩
  | error error =>
    rw [hfind] at hcount hnotices
    refine ⟨hcount, ?_, hnotices⟩
    cases error with
    | depthExceeded depth max => exact maxDepth?_of_depthExceeded hfind
    | predicateFailure name depth source => exact maxDepth?_of_predicateFailure hfind

end Finder

end Gleaner
