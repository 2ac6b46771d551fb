import Gleaner.Proofs.Document.Depth
import Gleaner.Proofs.Search.Find
/-!
# The bound of a search

A search fails for depth at the first place below its bound, which lies right below it, unless a
test fails before. A search that does not fail for depth has passed no place below its bound, so a
wider bound changes nothing about it (`answerOf_widen`). The bound that a document needs is its
depth, which is measured apart from any search.
-/
namespace Gleaner

namespace Query

def widen (q : Query) (bound : Nat) : Query := { q with maxDepth := bound }

/-- A place within both bounds fails alike for both. -/
theorem failure?_widen {q : Query} {p : Place} {bound : Nat} (hwider : q.maxDepth ≤ bound)
    (hlevel : p.depth ≤ q.maxDepth) : (q.widen bound).failure? p = q.failure? p := by
  have hwide : ¬ (q.widen bound).maxDepth < p.depth := Nat.not_lt.mpr (Nat.le_trans hlevel hwider)
  unfold failure?
  rw [if_neg (Nat.not_lt.mpr hlevel), if_neg hwide]
  rfl

/-- A wider bound keeps every answer but a failure for depth. -/
theorem answerOf_widen {q : Query} {places : List Place} {bound : Nat}
    (hwider : q.maxDepth ≤ bound)
    (hanswer : ∀ depth max, q.answerOf places ≠ .error (.depthExceeded depth max)) :
    (q.widen bound).answerOf places = q.answerOf places := by
  -- What is answered before the first failure stays as it is, and no place up to it lies below the
  -- bound: a place that does would be that failure.
  induction places with
  | nil => rfl
  | cons p rest ih =>
    cases hp : q.failure? p with
    | some error =>
      rw [answerOf_cons_of_failure hp] at hanswer ⊢
      rcases failure?_eq_some.mp hp with ⟨_, rfl⟩ | ⟨hlevel, _⟩
      · exact absurd rfl (hanswer _ _)
      · exact answerOf_cons_of_failure ((failure?_widen hwider hlevel).trans hp) rest
    | none =>
      have hlevel : p.depth ≤ q.maxDepth := (failure?_eq_none.mp hp).1
      have hwide : (q.widen bound).failure? p = none := (failure?_widen hwider hlevel).trans hp
      have hrest : ∀ depth max, q.answerOf rest ≠ .error (.depthExceeded depth max) := by
        intro depth max herror
        refine hanswer depth max ?_
        rw [answerOf_cons hp, herror]
        rfl
      rw [answerOf_cons hp, answerOf_cons hwide, ih hrest]
      rfl

theorem answer_depthExceeded {q : Query} {root : Node} {depth max : Nat}
    (h : q.answer root = .error (.depthExceeded depth max)) :
    max = q.maxDepth ∧ depth = q.maxDepth + 1 ∧ q.maxDepth < root.depth := by
  obtain ⟨front, p, back, hsplit, hp, hfront⟩ :=
    List.findSome?_eq_some_iff.mp (answerOf_eq_error.mp h)
  rcases failure?_eq_some.mp hp with ⟨hbelow, herror⟩ | ⟨_, _, _, _, _, herror⟩
  · obtain ⟨rfl, rfl⟩ := FindError.depthExceeded.inj herror
    have hlevels : ∀ x ∈ front, x.depth ≤ q.maxDepth := fun x hx =>
      (failure?_eq_none.mp (hfront x hx)).1
    have hroot : ∀ x ∈ [(⟨0, root⟩ : Place)], x.depth ≤ q.maxDepth + 1 := by simp
    have hdepth : p.depth = q.maxDepth + 1 :=
      Place.depth_of_first_below hroot ((Place.listing_root root).trans hsplit) hlevels hbelow
    have hmem : p ∈ root.preorder := by simp [hsplit]
    refine ⟨rfl, hdepth, Nat.not_le.mp fun hle => ?_⟩
    have hle := Node.depth_le_iff.mp hle p hmem
    omega
  · cases herror

/-- A document that nests deeper than the bound has no answer without an error. -/
theorem answer_ne_ok {q : Query} {root : Node} (h : q.maxDepth < root.depth) (texts : List String) :
    q.answer root ≠ .ok texts := by
  intro hok
  obtain ⟨p, hp, hbelow⟩ := Node.exists_of_lt_depth h
  have hnone : q.failure? p = none := answerOf_isOk.mp ⟨texts, hok⟩ p hp
  exact absurd (failure?_eq_none.mp hnone).1 (Nat.not_le.mpr hbelow)

/-- With a test that never fails, a document is answered exactly if it nests no deeper than the
bound. -/
theorem answer_isOk_iff {q : Query} {root : Node}
    (htest : ∀ text, ∃ holds, q.test text = .ok holds) :
    (∃ texts, q.answer root = .ok texts) ↔ root.depth ≤ q.maxDepth := by
  rw [answer, answerOf_isOk, Node.depth_le_iff]
  refine forall₂_congr fun p _ => ?_
  rw [failure?_eq_none, and_iff_left]
  intro text source _ hfail
  obtain ⟨holds, hholds⟩ := htest text
  cases hholds.symm.trans hfail

end Query

namespace Finder

/-- How the bound decides a search. A failure for depth tells the bound and the level right below
it. Any other result stays the same under a wider bound. A document that nests no deeper than the
bound never fails for depth, and one that nests deeper always fails; so where the test never fails,
the search succeeds exactly if the document nests no deeper than the bound. -/
theorem find_of_bound (predicate : Predicate) (root : Node) {bound wider : Nat}
    (hwider : bound ≤ wider) :
    (∀ depth max, find ⟨predicate, bound⟩ root = .error (.depthExceeded depth max) →
      max = bound ∧ depth = bound + 1) ∧
    (∀ texts, find ⟨predicate, bound⟩ root = .ok texts →
      find ⟨predicate, wider⟩ root = .ok texts) ∧
    (∀ name depth source,
      find ⟨predicate, bound⟩ root = .error (.predicateFailure name depth source) →
        find ⟨predicate, wider⟩ root = .error (.predicateFailure name depth source)) ∧
    (root.depth ≤ bound → ∀ depth max,
      find ⟨predicate, bound⟩ root ≠ .error (.depthExceeded depth max)) ∧
    (bound < root.depth → ∀ texts, find ⟨predicate, bound⟩ root ≠ .ok texts) ∧
    ((∀ text, ∃ holds, predicate.test (.text text) = .ok holds) →
      ((∃ texts, find ⟨predicate, bound⟩ root = .ok texts) ↔ root.depth ≤ bound)) := by
  let q : Query := query ⟨predicate, bound⟩
  have hnarrow : find ⟨predicate, bound⟩ root = q.answer root := by rw [find_eq_report, report_eq]
  have hwide : find ⟨predicate, wider⟩ root = (q.widen wider).answer root := by
    rw [find_eq_report, report_eq]
    rfl
  have hkept : (∀ depth max, q.answer root ≠ .error (.depthExceeded depth max)) →
      (q.widen wider).answer root = q.answer root := Query.answerOf_widen hwider
  rw [hnarrow, hwide]
  refine ⟨?_, ?_, ?_, ?_, ?_, ?_⟩
  · intro depth max h
    obtain ⟨hmax, hdepth, _⟩ := Query.answer_depthExceeded h
    exact ⟨hmax, hdepth⟩
  · intro texts h
    exact (hkept fun depth max hdeep => by cases h.symm.trans hdeep).trans h
  · intro name depth source h
    exact (hkept fun depth max hdeep => by cases h.symm.trans hdeep).trans h
  · intro hdepth depth max h
    obtain ⟨_, _, hdeep⟩ := Query.answer_depthExceeded h
    exact Nat.not_le.mpr hdeep hdepth
  · exact fun hdeep texts => Query.answer_ne_ok hdeep texts
  · exact fun htest => Query.answer_isOk_iff htest

/-- A document of depth 2 with a text that one predicate cannot judge and another one accepts. -/
theorem find_of_bound_picky :
    let picky : Predicate := .check (.ofFunction "picky" fun node =>
      if node.text? = some "bad" then .error ⟨"cannot judge bad"⟩ else .ok true)
    let document : Node := .list [.text "good", .list [.list []], .text "bad"]
    let failure : FindError := .predicateFailure "picky" 1 ⟨"cannot judge bad"⟩
    find ⟨picky, 1⟩ document = .error (.depthExceeded 2 1) ∧
      find ⟨picky, 2⟩ document = .error failure ∧ find ⟨picky, 7⟩ document = .error failure ∧
      find ⟨.check .acceptAll, 2⟩ document = .ok ["good", "bad"] ∧
      find ⟨.check .acceptAll, 7⟩ document = .ok ["good", "bad"] ∧
      document.depth ≤ 2 ∧ 1 < document.depth ∧
      ∀ texts, find ⟨.check .acceptAll, 1⟩ document ≠ .ok texts := by
  intro picky document failure
  have hfails : find ⟨picky, 2⟩ document = .error failure := by
    rw [find_eq_report, report_eq]
    rfl
  have hfound : find ⟨.check .acceptAll, 2⟩ document = .ok ["good", "bad"] := by
    rw [find_eq_report, report_eq]
    rfl
  have hdeep : find ⟨picky, 1⟩ document = .error (.depthExceeded 2 1) := by
    rw [find_eq_report, report_eq]
    rfl
  obtain ⟨_, _, hfailsWider, _⟩ := find_of_bound picky document (show 2 ≤ 7 by decide)
  obtain ⟨_, hfoundWider, _, _, _, hfits⟩ :=
    find_of_bound (.check .acceptAll) document (show 2 ≤ 7 by decide)
  obtain ⟨_, _, _, hfit, _⟩ := find_of_bound picky document (show 1 ≤ 2 by decide)
  obtain ⟨_, _, _, _, hnone, _⟩ :=
    find_of_bound (.check .acceptAll) document (show 1 ≤ 2 by decide)
  have hdepth : document.depth ≤ 2 := (hfits fun _ => ⟨true, rfl⟩).mp ⟨_, hfound⟩
  have hmore : 1 < document.depth := Nat.not_le.mp fun hle => hfit hle 2 1 hdeep
  exact ⟨hdeep, hfails, hfailsWider _ _ _ hfails, hfound, hfoundWider _ hfound, hdepth, hmore,
    hnone hmore⟩

end Finder

end Gleaner
