import Gleaner.Proofs.Search.Trace
/-!
# What a search asks its predicate

An inquiry knows a predicate only by the verdicts that it asks for, one place after another.
Finding, counting and tracing are inquiries: written as such they make the same visits, and with the
answers of the predicate they are the searches. What they ask about are the texts that the search
reaches and that lie within its bound, in pre-order and each once (`asked_search`). Predicates that
answer alike there are not told apart (`run_of_agree`), and with another answer at one of these
places the search would end otherwise.
-/
namespace Gleaner

/-- A computation that asks for the verdicts on places, one at a time, and goes on with each. -/
inductive Inquiry (α : Type) where
  | done (result : α)
  | ask (place : Place) (next : Except Failure Bool → Inquiry α)

namespace Inquiry

variable {α : Type} {test other : Node → Except Failure Bool}

def run (test : Node → Except Failure Bool) : Inquiry α → α
  | .done result => result
  | .ask p next => (next (test p.node)).run test

/-- The places that an inquiry asks about where a test gives the verdicts, in this order. -/
def asked (test : Node → Except Failure Bool) : Inquiry α → List Place
  | .done _ => []
  | .ask p next => p :: (next (test p.node)).asked test

/-- Two tests that agree on every place that the first is asked about lead to the same result, and
are asked about the same places. -/
theorem run_of_agree (i : Inquiry α) (h : ∀ p ∈ i.asked test, other p.node = test p.node) :
    i.run other = i.run test ∧ i.asked other = i.asked test := by
  induction i with
  | done result => exact ⟨rfl, rfl⟩
  | ask p next ih =>
    obtain ⟨hp, hrest⟩ := List.forall_mem_cons.mp h
    obtain ⟨hrun, hasked⟩ := ih (test p.node) hrest
    simp only [run, asked, hp, hrun, hasked, and_self]

/-- One visit as a part of an inquiry. Only a text within the bound is asked about. -/
def visit (name : String) (maxDepth : Nat) (p : Place) (next : Visit → Inquiry α) : Inquiry α :=
  if maxDepth < p.depth then next (.stopped (.depthExceeded p.depth maxDepth) .tooDeep)
  else match p.node with
    | .null _ => next (.passed .skippedNull)
    | .container _ cs => next (.passed (.descended cs.length))
    | .scalar (.string text) => .ask p fun
      | .ok true => next (.found text)
      | .ok false => next (.passed .rejected)
      | .error source => next (.stopped (.predicateFailure name p.depth source) .failed)
    | .scalar _ => next (.passed .notText)

/-- A search of pending places as an inquiry; `note` adds a visit to the record that is kept. -/
def search (name : String) (maxDepth : Nat) (note : α → Place → Visit → α) (record : α) :
    List Place → Inquiry α
  | [] => .done record
  | p :: rest => visit name maxDepth p fun
    | .stopped error o => .done (note record p (.stopped error o))
    | v => search name maxDepth note (note record p v) (p.open rest)
termination_by pending => Place.weight pending
decreasing_by exact Place.weight_open p rest

/-- A record of texts that are combined one after another, or of the error that ends a search. -/
def noteText (combine : α → String → α) (record : Except FindError α) (_ : Place) :
    Visit → Except FindError α
  | .found text => record.map (combine · text)
  | .passed _ => record
  | .stopped error _ => .error error

def noteStep (t : FindTrace) (p : Place) (v : Visit) : FindTrace where
  predicate := t.predicate
  result := noteText (fun found text => found ++ [text]) t.result p v
  steps := t.steps ++ [⟨t.steps.length, p.depth, p.node.kind, v.outcome⟩]

def find (name : String) (maxDepth : Nat) (root : Node) :
    Inquiry (Except FindError (List String)) :=
  search name maxDepth (noteText fun found text => found ++ [text]) (.ok []) [⟨0, root⟩]

def count (name : String) (maxDepth : Nat) (root : Node) : Inquiry (Except FindError Nat) :=
  search name maxDepth (noteText fun n _ => n + 1) (.ok 0) [⟨0, root⟩]

def trace (name : String) (maxDepth : Nat) (root : Node) : Inquiry FindTrace :=
  search name maxDepth noteStep ⟨name, .ok [], []⟩ [⟨0, root⟩]

end Inquiry

/-- Whether the test is asked about a place: a text that does not lie too deep. -/
def Query.tests (q : Query) (p : Place) : Bool :=
  decide (p.depth ≤ q.maxDepth) && p.node.text?.isSome

namespace Finder

variable {α : Type} (f : Finder)

/-! ### Searches are inquiries -/

theorem run_visit (p : Place) (next : Visit → Inquiry α) :
    (Inquiry.visit f.predicate.name f.maxDepth p next).run f.predicate.test =
      (next (f.visit p)).run f.predicate.test := by
  obtain ⟨depth, node⟩ := p
  unfold Inquiry.visit visit judge
  by_cases hdepth : f.maxDepth < depth
  · simp only [if_pos hdepth]
  · simp only [if_neg hdepth]
    rcases node with k | s | ⟨form, cs⟩
    · rfl
    · cases s with
      | string text =>
        simp only [Inquiry.run]
        rcases f.predicate.test (.text text) with source | holds
        · rfl
        · cases holds <;> rfl
      | _ => rfl
    · rfl

theorem asked_visit (p : Place) (next : Visit → Inquiry α) :
    (Inquiry.visit f.predicate.name f.maxDepth p next).asked f.predicate.test =
      (if f.query.tests p then [p] else []) ++ (next (f.visit p)).asked f.predicate.test := by
  obtain ⟨depth, node⟩ := p
  unfold Inquiry.visit visit judge
  by_cases hdepth : f.maxDepth < depth
  · have htests : f.query.tests ⟨depth, node⟩ = false := by
      simp [Query.tests, query, Nat.not_le.mpr hdepth]
    rw [if_pos hdepth, if_pos hdepth, htests]
    rfl
  · rw [if_neg hdepth, if_neg hdepth]
    rcases node with k | s | ⟨form, cs⟩
    · simp [Query.tests, Node.text?]
    · cases s with
      | string text =>
        have htests : f.query.tests ⟨depth, .text text⟩ = true := by
          simp [Query.tests, query, Node.text?, Scalar.text?, Nat.not_lt.mp hdepth]
        rw [htests]
        simp only [Inquiry.asked]
        rcases f.predicate.test (.text text) with source | holds
        · rfl
        · cases holds <;> rfl
      | _ => simp [Query.tests, Node.text?, Scalar.text?]
    · simp [Query.tests, Node.text?]

theorem run_noteText (combine : α → String → α) (acc : α) (visited : Nat) (pending : List Place) :
    (Inquiry.search f.predicate.name f.maxDepth (Inquiry.noteText combine) (.ok acc) pending).run
      f.predicate.test = (f.fold combine acc ⟨pending, visited⟩).1 := by
  induction pending using Place.pending_induction generalizing acc visited with
  | nil =>
    rw [Inquiry.search, fold_nil]
    rfl
  | step p rest ih =>
    rw [Inquiry.search, run_visit, fold_cons]
    cases f.visit p with
    | found text => exact ih (combine acc text) (visited + 1)
    | passed o => exact ih acc (visited + 1)
    | stopped error o => rfl

theorem run_noteStep (found : List String) (steps : List Step) (pending : List Place) :
    (Inquiry.search f.predicate.name f.maxDepth Inquiry.noteStep
      ⟨f.predicate.name, .ok found.reverse, steps.reverse⟩ pending).run f.predicate.test =
        ⟨f.predicate.name, (f.record steps.length found steps pending).1,
          (f.record steps.length found steps pending).2⟩ := by
  induction pending using Place.pending_induction generalizing found steps with
  | nil =>
    rw [Inquiry.search, record_nil]
    rfl
  | step p rest ih =>
    rw [Inquiry.search, run_visit, record]
    cases hvisit : f.visit p with
    | found text =>
      have h := ih (text :: found) (⟨steps.length, p.depth, p.node.kind, .matched⟩ :: steps)
      simpa [Inquiry.noteStep, Inquiry.noteText, Except.map, hvisit, Visit.outcome] using h
    | passed o =>
      have h := ih found (⟨steps.length, p.depth, p.node.kind, o⟩ :: steps)
      simpa [Inquiry.noteStep, Inquiry.noteText, hvisit, Visit.outcome] using h
    | stopped error o =>
      simp [Inquiry.noteStep, Inquiry.noteText, Visit.outcome, Inquiry.run]

theorem run_find (root : Node) :
    (Inquiry.find f.predicate.name f.maxDepth root).run f.predicate.test = f.find root := by
  have hcollect : ∀ texts : List String,
      texts.foldl (fun found text => found ++ [text]) [] = texts := by
    intro texts
    rw [List.foldl_append_eq_append, ← List.flatMap_def, List.flatMap_singleton', List.nil_append]
  rw [Inquiry.find, run_noteText _ _ _ 0, fold_eq, Place.listing_root, find_eq_report, report_eq,
    Query.answer]
  cases f.query.answerOf root.preorder with
  | error error => rfl
  | ok texts => exact congrArg Except.ok (hcollect texts)

theorem run_count (root : Node) :
    (Inquiry.count f.predicate.name f.maxDepth root).run f.predicate.test = f.count root := by
  rw [Inquiry.count, run_noteText _ _ _ 0]
  rfl

theorem run_trace (root : Node) :
    (Inquiry.trace f.predicate.name f.maxDepth root).run f.predicate.test = f.trace root :=
  f.run_noteStep [] [] [⟨0, root⟩]

/-! ### What is asked -/

/-- A search asks about the texts among the places that it reaches, but for one that lies too deep,
with which it ends. What is kept on record makes no difference. -/
theorem asked_search (note : α → Place → Visit → α) (record : α) (pending : List Place) :
    (Inquiry.search f.predicate.name f.maxDepth note record pending).asked f.predicate.test =
      (f.query.reached (Place.listing pending)).filter f.query.tests := by
  induction pending using Place.pending_induction generalizing record with
  | nil =>
    rw [Inquiry.search]
    rfl
  | step p rest ih =>
    rw [Inquiry.search, asked_visit, visit_eq, Place.listing_step]
    cases hfail : f.query.failure? p with
    | some error =>
      rw [Query.reached_cons_of_failure hfail]
      cases htests : f.query.tests p <;> simp [htests, Inquiry.asked]
    | none =>
      rw [Query.reached_cons hfail]
      cases f.query.accepted? p <;> cases htests : f.query.tests p <;> simp [htests, ih]

/-- The places that `find` asks its predicate about, in the order of the calls. -/
def calls (root : Node) : List Place :=
  (Inquiry.find f.predicate.name f.maxDepth root).asked f.predicate.test

theorem calls_eq (root : Node) :
    f.calls root = (f.query.reached root.preorder).filter f.query.tests := by
  rw [calls, Inquiry.find, asked_search, Place.listing_root]

variable {f}

theorem find_of_agree {g : Finder} {root : Node} (hname : g.predicate.name = f.predicate.name)
    (hbound : g.maxDepth = f.maxDepth)
    (htest : ∀ p ∈ f.calls root, g.predicate.test p.node = f.predicate.test p.node) :
    g.find root = f.find root ∧ g.count root = f.count root ∧ g.trace root = f.trace root ∧
      g.calls root = f.calls root := by
  have hagree : ∀ {α : Type} (note : α → Place → Visit → α) (record : α),
      let i := Inquiry.search f.predicate.name f.maxDepth note record [⟨0, root⟩]
      i.run g.predicate.test = i.run f.predicate.test ∧
        i.asked g.predicate.test = i.asked f.predicate.test := by
    intro α note record
    refine Inquiry.run_of_agree _ ?_
    rw [asked_search, Place.listing_root, ← calls_eq]
    exact htest
  refine ⟨?_, ?_, ?_, ?_⟩
  · rw [← run_find, ← run_find, hname, hbound]
    exact (hagree _ _).1
  · rw [← run_count, ← run_count, hname, hbound]
    exact (hagree _ _).1
  · rw [← run_trace, ← run_trace, hname, hbound]
    exact (hagree _ _).1
  · rw [calls, calls, hname, hbound]
    exact (hagree _ _).2

/-- The places of the calls lie at different addresses. -/
theorem calls_addresses (f : Finder) (root : Node) : ∃ visits : List (List Nat), visits.Nodup ∧
    visits.map root.placeAt? = (f.calls root).map some := by
  obtain ⟨visits, hnodup, hvisits⟩ := reached_addresses f.query root
  have hsublist : ((f.calls root).map some).Sublist (visits.map root.placeAt?) := by
    rw [hvisits, calls_eq]
    exact List.filter_sublist.map some
  obtain ⟨called, hcalled, hmap⟩ := List.sublist_map_iff.mp hsublist
  exact ⟨called, hnodup.sublist hcalled, hmap.symm⟩

/-- The finder whose predicate fails on one more text, with the given failure. -/
def refusing (f : Finder) (text : String) (e : Failure) : Finder where
  predicate := .check
    { name := f.predicate.name
      shown := f.predicate.shown
      test := fun node => if node.text? = some text then .error e else f.predicate.test node }
  maxDepth := f.maxDepth

theorem failure?_refusing_of_not {text : String} {e : Failure} {p : Place}
    (h : ¬ (p.node = .text text ∧ p.depth ≤ f.maxDepth)) :
    (f.refusing text e).query.failure? p = f.query.failure? p := by
  obtain ⟨depth, node⟩ := p
  by_cases hdepth : f.maxDepth < depth
  · simp [Query.failure?, query, refusing, hdepth]
  · rcases node with k | s | ⟨form, cs⟩
    · rfl
    · cases s with
      | string other =>
        have hother : (Node.text other).text? ≠ some text := fun hsame =>
          h ⟨congrArg Node.text (Option.some.inj hsame), Nat.not_lt.mp hdepth⟩
        simp only [Query.failure?, query, refusing, Predicate.test, if_neg hother]
        rfl
      | _ => rfl
    · rfl

theorem failure?_refusing {text : String} {e : Failure} {p : Place} (h : p.node = .text text)
    (hlevel : p.depth ≤ f.maxDepth) : (f.refusing text e).query.failure? p =
      some (.predicateFailure f.predicate.name p.depth e) := by
  refine Query.failure?_eq_some.mpr (.inr ⟨hlevel, text, e, h, ?_, rfl⟩)
  exact if_pos rfl

theorem exists_other_failure (result : Except FindError (List String)) :
    ∃ e, ∀ name depth, result ≠ .error (.predicateFailure name depth e) := by
  rcases result with (⟨name, depth, source⟩ | ⟨depth, max⟩) | texts
  · refine ⟨⟨source.message ++ "!"⟩, fun name' depth' hsame => ?_⟩
    obtain ⟨_, _, hsource⟩ := FindError.predicateFailure.inj (Except.error.inj hsame)
    have hlength := congrArg (fun e => e.message.length) hsource
    simp at hlength
  · exact ⟨⟨""⟩, nofun⟩
  · exact ⟨⟨""⟩, nofun⟩

/-- If the predicate failed on the text of a call, with a failure of its own, the search would end
with another result. -/
theorem exists_find_ne {root : Node} {p : Place} (hp : p ∈ f.calls root) :
    ∃ text e, p.node = .text text ∧ (f.refusing text e).find root ≠ f.find root := by
  rw [calls_eq, List.mem_filter, Query.tests, Bool.and_eq_true, decide_eq_true_eq] at hp
  obtain ⟨hreached, hlevel, htext⟩ := hp
  obtain ⟨text, hnode⟩ : ∃ text, p.node = .text text := by
    obtain ⟨depth, node⟩ := p
    cases node with
    | scalar s =>
      cases s with
      | string text => exact ⟨text, rfl⟩
      | _ => cases htext
    | _ => cases htext
  obtain ⟨e, hfresh⟩ := exists_other_failure (f.find root)
  refine ⟨text, e, hnode, fun hsame => ?_⟩
  -- The other search fails at `p` at the latest. Either it fails with the new failure, or at a
  -- place where the search at hand fails as well and beyond which it asks about nothing.
  have hp : root.preorder.findSome? (f.refusing text e).query.failure? ≠ none := fun hnone => by
    have hmem : p ∈ root.preorder := List.mem_of_mem_take hreached
    have hfails := List.findSome?_eq_none_iff.mp hnone p hmem
    rw [failure?_refusing hnode hlevel] at hfails
    cases hfails
  obtain ⟨error, hfails⟩ := Option.ne_none_iff_exists'.mp hp
  obtain ⟨front, x, back, hplaces, _, hfront, hx⟩ := Query.reached_of_failure hfails
  have herror : f.find root = .error error := by
    rw [← hsame, find_eq_report, report_eq]
    exact Query.answerOf_eq_error.mpr hfails
  by_cases hnew : x.node = .text text ∧ x.depth ≤ f.maxDepth
  · rw [failure?_refusing hnew.1 hnew.2] at hx
    obtain rfl := Option.some.inj hx
    exact hfresh _ _ herror
  · rw [hplaces] at hreached
    rcases Query.mem_of_mem_reached (failure?_refusing_of_not hnew ▸ hx) hreached with hmem | rfl
    · have hnone := hfront p hmem
      rw [failure?_refusing hnode hlevel] at hnone
      cases hnone
    · exact hnew ⟨hnode, hlevel⟩

/-- What `find` asks its predicate about: each text among the places up to the first failing one, or
among all places if none fails, in pre-order and once, and nothing else; a text that lies too deep
ends the search without being asked about. Another predicate of this name that answers alike to
these calls gives the same texts or the same error, the same count and the same trace, and with
another answer to any one of them `find` would end otherwise. -/
theorem predicate_calls (f : Finder) (root : Node) :
    (Inquiry.find f.predicate.name f.maxDepth root).run f.predicate.test = f.find root ∧
    f.calls root = (f.query.reached root.preorder).filter f.query.tests ∧
    (∃ visits : List (List Nat), visits.Nodup ∧
      visits.map root.placeAt? = (f.calls root).map some) ∧
    (∀ g : Finder, g.predicate.name = f.predicate.name → g.maxDepth = f.maxDepth →
      (∀ p ∈ f.calls root, g.predicate.test p.node = f.predicate.test p.node) →
        g.find root = f.find root ∧ g.count root = f.count root ∧ g.trace root = f.trace root ∧
          g.calls root = f.calls root) ∧
    ∀ p ∈ f.calls root, ∃ text e, p.node = .text text ∧
      (f.refusing text e).find root ≠ f.find root :=
  ⟨f.run_find root, f.calls_eq root, f.calls_addresses root,
    fun _ hname hbound htest => find_of_agree hname hbound htest, fun _ => exists_find_ne⟩

/-- A text within the bound, a symbol, a text that lies too deep, and a text after it. -/
example : Finder.calls ⟨.check .acceptAll, 1⟩ (.list [.text "a", .scalar (.symbol "b"),
    .list [.text "c"], .text "d"]) = [⟨1, .text "a"⟩] := by
  rw [calls_eq]
  rfl

end Finder

end Gleaner
