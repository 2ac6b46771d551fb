import Gleaner.Proofs.Search.Query
/-!
# The answer of a search

A search combines texts as it visits places. One visit either combines the text of the first
pending place, or passes it, or ends the search (`fold_cons`), so a whole search combines the
accepted texts of the listing of the pending places, unless one of these places fails. What a
search finds in a document is therefore the answer that is read off the pre-order listing.
-/
namespace Gleaner.Finder

variable (f : Finder)

theorem advance_nil (visited : Nat) : f.advance visited [] = (none, ⟨[], visited⟩) := by
  rw [advance]

theorem advance_cons (visited : Nat) (p : Place) (rest : List Place) :
    f.advance visited (p :: rest) = match f.visit p with
      | .found text => (some (.ok text), ⟨p.open rest, visited + 1⟩)
      | .passed _ => f.advance (visited + 1) (p.open rest)
      | .stopped error _ => (some (.error error), ⟨[], visited + 1⟩) := by
  cases hvisit : f.visit p <;> rw [advance, hvisit]

variable {α : Type} (combine : α → String → α)

theorem fold_next (acc : α) (c : Cursor) :
    f.fold combine acc c = match f.next c with
      | (none, c') => (.ok acc, c'.visited)
      | (some (.error error), c') => (.error error, c'.visited)
      | (some (.ok text), c') => f.fold combine (combine acc text) c' := by
  rw [fold]
  split <;> simp_all

theorem fold_nil (acc : α) (visited : Nat) :
    f.fold combine acc ⟨[], visited⟩ = (.ok acc, visited) := by
  rw [fold_next, next, advance_nil]

theorem fold_cons (acc : α) (visited : Nat) (p : Place) (rest : List Place) :
    f.fold combine acc ⟨p :: rest, visited⟩ = match f.visit p with
      | .found text => f.fold combine (combine acc text) ⟨p.open rest, visited + 1⟩
      | .passed _ => f.fold combine acc ⟨p.open rest, visited + 1⟩
      | .stopped error _ => (.error error, visited + 1) := by
  rw [fold_next, next, advance_cons]
  cases f.visit p with
  | found text => rfl
  | passed o => exact (fold_next f combine acc ⟨p.open rest, visited + 1⟩).symm
  | stopped error o => rfl

/-- A fold combines the accepted texts of a listing and counts the places that it reaches. -/
theorem fold_eq (acc : α) (visited : Nat) (pending : List Place) :
    f.fold combine acc ⟨pending, visited⟩ =
      ((f.query.answerOf (Place.listing pending)).map (·.foldl combine acc),
        visited + (f.query.reached (Place.listing pending)).length) := by
  -- What is left to find is the answer of the listing of what is pending: one visit takes one place
  -- off the listing, whatever the place leaves to be visited.
  induction pending using Place.pending_induction generalizing acc visited with
  | nil => exact fold_nil f combine acc visited
  | step p rest ih =>
    rw [fold_cons, visit_eq, Place.listing_step]
    cases hfail : f.query.failure? p with
    | some error =>
      rw [Query.reached_cons_of_failure hfail, Query.answerOf_cons_of_failure hfail]
      rfl
    | none =>
      rw [Query.reached_cons hfail, Query.answerOf_cons hfail, List.length_cons]
      have hcount : ∀ n, visited + 1 + n = visited + (n + 1) := by omega
      cases haccept : f.query.accepted? p with
      | some text =>
        simp only [ih, hcount]
        cases f.query.answerOf (Place.listing (p.open rest)) <;> rfl
      | none =>
        simp only [ih, hcount]
        cases f.query.answerOf (Place.listing (p.open rest)) <;> rfl

theorem find_eq_report (root : Node) : f.find root = (f.report root).1 := rfl

/-- A search reports the answer to its query and the number of places that it reaches. -/
theorem report_eq (root : Node) :
    f.report root = (f.query.answer root, (f.query.reached root.preorder).length) := by
  rw [report, start, fold_eq, Place.listing_root, Nat.zero_add, Query.answer]
  cases f.query.answerOf root.preorder with
  | error error => rfl
  | ok texts => simp [Except.map, List.foldl_flip_cons_eq_append]

theorem count_eq (root : Node) : f.count root = (f.query.answer root).map List.length := by
  rw [count, start, fold_eq, Place.listing_root, Query.answer]
  cases f.query.answerOf root.preorder with
  | error error => rfl
  | ok texts =>
    have hlength : texts.foldl (fun n _ => n + 1) 0 = texts.length := by
      rw [List.foldl_add_const, Nat.zero_add, Nat.one_mul]
    simp only [Except.map, hlength]

/-- A search gives the error of the first place in pre-order that fails, or else the accepted texts
in pre-order. -/
theorem find_eq_answer (root : Node) : f.find root = f.query.answer root := by
  rw [find_eq_report, report_eq]

end Gleaner.Finder
