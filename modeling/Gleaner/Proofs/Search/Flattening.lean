import Gleaner.Proofs.Search.Find
/-!
# Searching the children of a container

What lies below a child of a container lies one level deeper in the container than in the child.
With a bound that is greater by one the same places fail there, and their errors tell a depth and a
bound that are greater by one. A listing of several children is answered child by child, so the
search of a container is the search of its children, one after another.
-/
namespace Gleaner

/-- The same place, one level further down. -/
def Place.deeper (p : Place) : Place := ⟨p.depth + 1, p.node⟩

/-- The same error, one level further down and with a bound that is greater by one. -/
def FindError.deeper : FindError → FindError
  | .predicateFailure predicate depth source => .predicateFailure predicate (depth + 1) source
  | .depthExceeded depth max => .depthExceeded (depth + 1) (max + 1)

namespace Node

mutual
theorem preorderFrom_succ (n : Node) (depth : Nat) :
    n.preorderFrom (depth + 1) = (n.preorderFrom depth).map Place.deeper := by
  match n with
  | .null _ => rfl
  | .scalar _ => rfl
  | .container form cs =>
    rw [preorderFrom, preorderFrom, List.map_cons, preorderAll_succ cs (depth + 1)]
    rfl
theorem preorderAll_succ (cs : List (Option String × Node)) (depth : Nat) :
    preorderAll (depth + 1) cs = (preorderAll depth cs).map Place.deeper := by
  match cs with
  | [] => rfl
  | (_, n) :: rest =>
    rw [preorderAll, preorderAll, List.map_append, preorderFrom_succ n, preorderAll_succ rest]
end

end Node

namespace Query

def deeper (q : Query) : Query := { q with maxDepth := q.maxDepth + 1 }

theorem failure?_deeper (q : Query) (p : Place) :
    q.deeper.failure? p.deeper = (q.failure? p).map FindError.deeper := by
  obtain ⟨depth, node⟩ := p
  have hbound : q.deeper.maxDepth < depth + 1 ↔ q.maxDepth < depth := Nat.add_lt_add_iff_right
  unfold failure? Place.deeper
  by_cases hdepth : q.maxDepth < depth
  · rw [if_pos hdepth, if_pos (hbound.mpr hdepth)]
    rfl
  · rw [if_neg hdepth, if_neg (mt hbound.mp hdepth)]
    rcases node with k | s | ⟨form, cs⟩
    · rfl
    · cases s with
      | string text =>
        have htest : q.deeper.test text = q.test text := rfl
        simp only [htest]
        cases q.test text <;> rfl
      | _ => rfl
    · rfl

theorem accepted?_deeper (q : Query) (p : Place) : q.deeper.accepted? p.deeper = q.accepted? p :=
  rfl

theorem answerOf_deeper (q : Query) (places : List Place) :
    q.deeper.answerOf (places.map Place.deeper) =
      (q.answerOf places).mapError FindError.deeper := by
  induction places with
  | nil => rfl
  | cons p rest ih =>
    have hfailure := q.failure?_deeper p
    rw [List.map_cons]
    cases hp : q.failure? p with
    | some error =>
      rw [hp] at hfailure
      rw [answerOf_cons_of_failure hp, answerOf_cons_of_failure hfailure]
      rfl
    | none =>
      rw [hp] at hfailure
      rw [answerOf_cons hp, answerOf_cons hfailure, ih, accepted?_deeper]
      cases q.answerOf rest <;> rfl

/-- A listing in two parts is answered part by part, and the second part only if nothing fails in
the first. -/
theorem answerOf_append (q : Query) (front back : List Place) :
    q.answerOf (front ++ back) =
      (q.answerOf front).bind fun found => (q.answerOf back).map (found ++ ·) := by
  induction front with
  | nil =>
    rw [List.nil_append, answerOf_nil]
    cases q.answerOf back <;> rfl
  | cons p rest ih =>
    rw [List.cons_append]
    cases hp : q.failure? p with
    | some error =>
      rw [answerOf_cons_of_failure hp, answerOf_cons_of_failure hp]
      rfl
    | none =>
      rw [answerOf_cons hp, answerOf_cons hp, ih]
      cases q.answerOf rest with
      | error error => rfl
      | ok found => cases q.answerOf back <;> simp [Except.map, Except.bind]

theorem answerOf_preorderAll (q : Query) (depth : Nat) (cs : List (Option String × Node)) :
    q.answerOf (Node.preorderAll depth cs) =
      (cs.mapM fun child => q.answerOf (child.2.preorderFrom depth)).map List.flatten := by
  induction cs with
  | nil => rfl
  | cons child rest ih =>
    obtain ⟨name, n⟩ := child
    rw [Node.preorderAll, answerOf_append, ih, List.mapM_cons]
    cases q.answerOf (n.preorderFrom depth) with
    | error error => rfl
    | ok found =>
      cases rest.mapM fun child => q.answerOf (child.2.preorderFrom depth) <;> rfl

theorem answer_container (q : Query) (form : Form) (cs : List (Option String × Node)) :
    q.answer (.container form cs) = q.answerOf (Node.preorderAll 1 cs) := by
  have hpass : q.failure? ⟨0, .container form cs⟩ = none := by
    rw [failure?, if_neg (Nat.not_lt_zero _)]
  have hlisting : (Node.container form cs).preorder =
      ⟨0, .container form cs⟩ :: Node.preorderAll 1 cs := rfl
  have hnone : q.accepted? ⟨0, .container form cs⟩ = none := rfl
  rw [answer, hlisting, answerOf_cons hpass, hnone]
  cases q.answerOf (Node.preorderAll 1 cs) <;> rfl

theorem answer_container_deeper (q : Query) (form : Form) (cs : List (Option String × Node)) :
    q.deeper.answer (.container form cs) =
      (cs.mapM fun child => (q.answer child.2).mapError FindError.deeper).map List.flatten := by
  have hchild : ∀ n : Node,
      q.deeper.answerOf (n.preorderFrom 1) = (q.answer n).mapError FindError.deeper := fun n => by
    rw [Node.preorderFrom_succ, answerOf_deeper]
    rfl
  rw [answer_container, answerOf_preorderAll]
  simp only [hchild]

end Query

/-- Searching a container is searching its children one after another, with a bound that is less by
one, up to the first that fails. Their texts are put together, and the error of a child tells a
depth, and a bound if it tells one, that are greater by one. An empty container has no texts,
whatever the bound. -/
theorem Finder.find_container (predicate : Predicate) (maxDepth : Nat) (form : Form)
    (children : List (Option String × Node)) :
    Finder.find ⟨predicate, maxDepth + 1⟩ (.container form children) =
        (children.mapM fun child =>
          (Finder.find ⟨predicate, maxDepth⟩ child.2).mapError FindError.deeper).map List.flatten ∧
      ∀ bound, Finder.find ⟨predicate, bound⟩ (.container form []) = .ok [] := by
  have hfind : ∀ (bound : Nat) (n : Node),
      Finder.find ⟨predicate, bound⟩ n = (Finder.query ⟨predicate, bound⟩).answer n :=
    fun bound n => by rw [find_eq_report, report_eq]
  simp only [hfind]
  refine ⟨(Finder.query ⟨predicate, maxDepth⟩).answer_container_deeper form children, ?_⟩
  intro bound
  rw [Query.answer_container]
  rfl

end Gleaner
