import Gleaner.Proofs.Search.Find
import Gleaner.Search.Trace
/-!
# What a traced search records

A traced search takes the same visits as a plain one. Its record is the pre-order listing as far as
the first failing place, so it names no node twice, and only its last step can be a failure.
-/
namespace Gleaner

/-- The record of the place with the given ordinal. -/
def Query.step (q : Query) (ordinal : Nat) (p : Place) : Step :=
  ⟨ordinal, p.depth, p.node.kind, q.outcome p⟩

namespace Finder

variable (f : Finder)

theorem visit_outcome (p : Place) : (f.visit p).outcome = f.query.outcome p := by
  rw [visit_eq]
  rcases f.query.outcome_cases p with
    ⟨hfails, _⟩ | ⟨hfail, ⟨text, haccept⟩, hout⟩ | ⟨hfail, hnone, _⟩
  · obtain ⟨error, hfail⟩ := Option.isSome_iff_exists.mp hfails
    rw [hfail]
    rfl
  · rw [hfail, haccept, hout]
    rfl
  · rw [hfail, hnone]
    rfl

theorem record_nil (ordinal : Nat) (found : List String) (steps : List Step) :
    f.record ordinal found steps [] = (.ok found.reverse, steps.reverse) := by
  rw [record]

theorem record_cons (ordinal : Nat) (found : List String) (steps : List Step) (p : Place)
    (rest : List Place) :
    f.record ordinal found steps (p :: rest) =
      match f.query.failure? p with
      | some error => (.error error, (f.query.step ordinal p :: steps).reverse)
      | none => f.record (ordinal + 1) ((f.query.accepted? p).toList ++ found)
          (f.query.step ordinal p :: steps) (p.open rest) := by
  rw [record, visit_outcome, visit_eq]
  cases f.query.failure? p with
  | some error => rfl
  | none => cases f.query.accepted? p <;> rfl

/-- A traced search adds the accepted texts of a listing to what it has found, and the places that
it reaches to its record. -/
theorem record_eq (ordinal : Nat) (found : List String) (steps : List Step)
    (pending : List Place) :
    f.record ordinal found steps pending =
      ((f.query.answerOf (Place.listing pending)).map (found.reverse ++ ·),
        steps.reverse ++ (f.query.reached (Place.listing pending)).mapIdx
          fun i p => f.query.step (ordinal + i) p) := by
  induction pending using Place.pending_induction generalizing ordinal found steps with
  | nil => simp [record_nil, Except.map]
  | step p rest ih =>
    rw [record_cons, Place.listing_step]
    cases hfail : f.query.failure? p with
    | some error =>
      rw [Query.reached_cons_of_failure hfail, Query.answerOf_cons_of_failure hfail]
      simp [Except.map]
    | none =>
      rw [Query.reached_cons hfail, Query.answerOf_cons hfail, List.mapIdx_cons]
      have hordinal : ∀ i, ordinal + 1 + i = ordinal + (i + 1) := by omega
      simp only [ih, hordinal, List.reverse_cons, List.append_assoc, List.singleton_append,
        Nat.add_zero]
      congr 1
      cases f.query.accepted? p <;>
        cases f.query.answerOf (Place.listing (p.open rest)) <;> simp [Except.map]

theorem trace_result (root : Node) : (f.trace root).result = f.query.answer root := by
  rw [trace, record_eq, Place.listing_root]
  simp only [Query.answer]
  cases f.query.answerOf root.preorder <;> rfl

theorem trace_steps (root : Node) :
    (f.trace root).steps = (f.query.reached root.preorder).mapIdx f.query.step := by
  rw [trace, record_eq, Place.listing_root]
  simp

theorem reached_addresses (q : Query) (root : Node) :
    ∃ visits : List (List Nat), visits.Nodup ∧
      visits.map root.placeAt? = (q.reached root.preorder).map some := by
  refine ⟨root.addresses.take (root.preorder.findIdx q.fails + 1), ?_, ?_⟩
  · exact root.addresses_nodup.sublist (List.take_sublist _ _)
  · rw [Query.reached, List.map_take, List.map_take, root.preorder_eq_placeAt?]

/-- Steps at places that do not fail are no failures. -/
theorem steps_of_no_failure {q : Query} {places : List Place}
    (h : ∀ p ∈ places, q.failure? p = none) :
    ∀ s ∈ places.mapIdx q.step, s.outcome.isFailure = false := by
  intro s hs
  obtain ⟨i, hi, rfl⟩ := List.mem_mapIdx.mp hs
  have hnone := h places[i] (List.getElem_mem hi)
  rw [Query.step, Query.outcome_isFailure, Query.fails, hnone]
  rfl

/-- The last step of a record is a failure exactly where the search fails, and no other step is. -/
theorem steps_isFailure (root : Node) :
    (∀ s ∈ (f.trace root).steps.dropLast, s.outcome.isFailure = false) ∧
      ((∃ s ∈ (f.trace root).steps.getLast?, s.outcome.isFailure = true) ↔
        ∃ error, (f.trace root).result = .error error) := by
  rw [trace_steps, trace_result, Query.answer, Query.answerOf]
  cases hfail : root.preorder.findSome? f.query.failure? with
  | none =>
    have hsteps := steps_of_no_failure (List.findSome?_eq_none_iff.mp hfail)
    rw [Query.reached_of_answer hfail]
    refine ⟨fun s hs => hsteps s (List.dropLast_subset _ hs), ?_⟩
    constructor
    · rintro ⟨s, hs, hfailed⟩
      rw [hsteps s (List.mem_of_getLast? hs)] at hfailed
      cases hfailed
    · rintro ⟨error, h⟩
      cases h
  | some error =>
    obtain ⟨front, p, _, _, hreached, hfront, hp⟩ := Query.reached_of_failure hfail
    rw [hreached, List.mapIdx_concat, List.dropLast_concat, List.getLast?_concat]
    refine ⟨steps_of_no_failure hfront, fun _ => ⟨error, rfl⟩, fun _ => ?_⟩
    refine ⟨f.query.step front.length p, rfl, ?_⟩
    rw [Query.step, Query.outcome_isFailure, Query.fails, hp]
    rfl

/-- A traced search gives what the search gives, and records the pre-order listing as far as the
first failing place: each place with its ordinal and what happens there. No node is visited twice,
and a failure is only ever the last step, which it is exactly if the search fails. -/
theorem trace_eq_reached (root : Node) :
    (f.trace root).result = f.find root ∧
      (f.trace root).steps = (f.query.reached root.preorder).mapIdx f.query.step ∧
      (∃ visits : List (List Nat), visits.Nodup ∧
        visits.map root.placeAt? = (f.query.reached root.preorder).map some) ∧
      (∀ s ∈ (f.trace root).steps.dropLast, s.outcome.isFailure = false) ∧
      ((∃ s ∈ (f.trace root).steps.getLast?, s.outcome.isFailure = true) ↔
        ∃ error, (f.trace root).result = .error error) := by
  refine ⟨?_, f.trace_steps root, reached_addresses f.query root, f.steps_isFailure root⟩
  rw [trace_result, find_eq_report, report_eq]

end Finder

end Gleaner
