import Gleaner.Proofs.Document.Listing
/-!
# Queries

A query says what a search is to answer: a test of texts, a bound on depth and a name for errors.
Its answer is read off the pre-order listing of a document, without a list of pending places. A
place fails if it is too deep, or else if it is a text whose test fails; the first failing place
decides the answer, and where there is none the accepted texts are the answer.
-/
namespace Gleaner

def Outcome.isFailure : Outcome → Bool
  | .failed => true
  | .tooDeep => true
  | _ => false

/-- A test of texts with a name, and the depth below which no node may lie. -/
structure Query where
  name : String
  maxDepth : Nat
  test : String → Except Failure Bool

namespace Query

/-- The error that a place ends a search with, if it fails. -/
def failure? (q : Query) (p : Place) : Option FindError :=
  if q.maxDepth < p.depth then some (.depthExceeded p.depth q.maxDepth)
  else match p.node with
    | .scalar (.string text) => match q.test text with
      | .error source => some (.predicateFailure q.name p.depth source)
      | .ok _ => none
    | _ => none

def fails (q : Query) (p : Place) : Bool := (q.failure? p).isSome

/-- The text of a place, if it is a text that conforms. -/
def accepted? (q : Query) (p : Place) : Option String :=
  match p.node with
  | .scalar (.string text) => match q.test text with
    | .ok true => some text
    | _ => none
  | _ => none

/-- The error of the first failing place of a listing, or else its accepted texts in order. -/
def answerOf (q : Query) (places : List Place) : Except FindError (List String) :=
  match places.findSome? q.failure? with
  | some error => .error error
  | none => .ok (places.filterMap q.accepted?)

def answer (q : Query) (root : Node) : Except FindError (List String) := q.answerOf root.preorder

/-- The front of a listing up to the first failing place, with that place; all of a listing in which
no place fails. -/
def reached (q : Query) (places : List Place) : List Place :=
  places.take (places.findIdx q.fails + 1)

def outcome (q : Query) (p : Place) : Outcome :=
  if q.maxDepth < p.depth then .tooDeep
  else match p.node with
    | .null _ => .skippedNull
    | .container _ cs => .descended cs.length
    | .scalar (.string text) => match q.test text with
      | .ok true => .matched
      | .ok false => .rejected
      | .error _ => .failed
    | .scalar _ => .notText

theorem outcome_cases (q : Query) (p : Place) :
    (q.fails p = true ∧ (q.outcome p).isFailure = true) ∨
    (q.failure? p = none ∧ (∃ text, q.accepted? p = some text) ∧ q.outcome p = .matched) ∨
    (q.failure? p = none ∧ q.accepted? p = none ∧ q.outcome p ≠ .matched ∧
      (q.outcome p).isFailure = false) := by
  obtain ⟨depth, node⟩ := p
  unfold fails failure? accepted? outcome
  by_cases hdepth : q.maxDepth < depth
  · simp [hdepth, Outcome.isFailure]
  · rcases node with k | s | ⟨form, cs⟩
    · simp [hdepth, Outcome.isFailure]
    · cases s with
      | string text =>
        rcases htest : q.test text with source | holds
        · simp [hdepth, htest, Outcome.isFailure]
        · cases holds <;> simp [hdepth, htest, Outcome.isFailure]
      | _ => simp [hdepth, Outcome.isFailure]
    · simp [hdepth, Outcome.isFailure]

theorem outcome_isFailure (q : Query) (p : Place) : (q.outcome p).isFailure = q.fails p := by
  rcases q.outcome_cases p with ⟨hfails, hout⟩ | ⟨hfail, _, hout⟩ | ⟨hfail, _, _, hout⟩
  · rw [hout, hfails]
  · rw [hout, fails, hfail]
    rfl
  · rw [hout, fails, hfail]
    rfl

/-- A place fails if it lies below the bound, or else if it is a text whose test fails. -/
theorem failure?_eq_some {q : Query} {p : Place} {error : FindError} :
    q.failure? p = some error ↔
      (q.maxDepth < p.depth ∧ error = .depthExceeded p.depth q.maxDepth) ∨
      (p.depth ≤ q.maxDepth ∧ ∃ text source, p.node = .text text ∧ q.test text = .error source ∧
        error = .predicateFailure q.name p.depth source) := by
  obtain ⟨depth, node⟩ := p
  unfold failure?
  by_cases hdepth : q.maxDepth < depth
  · simp [hdepth, Nat.not_le.mpr hdepth, eq_comm]
  · have hlevel : depth ≤ q.maxDepth := Nat.not_lt.mp hdepth
    rcases node with k | s | ⟨form, cs⟩
    · simp [hdepth]
    · cases s with
      | string text =>
        rcases htest : q.test text with source | holds
        · simp [hdepth, hlevel, htest, eq_comm]
        · simp [hdepth, htest]
      | _ => simp [hdepth]
    · simp [hdepth]

theorem failure?_eq_none {q : Query} {p : Place} : q.failure? p = none ↔
    p.depth ≤ q.maxDepth ∧ ∀ text source, p.node = .text text → q.test text ≠ .error source := by
  simp only [Option.eq_none_iff_forall_ne_some, ne_eq, failure?_eq_some, not_or, not_and,
    not_exists]
  constructor
  · intro hnone
    have hlevel : p.depth ≤ q.maxDepth := Nat.not_lt.mp fun hdeep => (hnone _).1 hdeep rfl
    exact ⟨hlevel, fun text source hnode htest => (hnone _).2 hlevel text source hnode htest rfl⟩
  · rintro ⟨hlevel, htest⟩ error
    exact ⟨fun hdeep => absurd hdeep (Nat.not_lt.mpr hlevel),
      fun _ text source hnode hfail => absurd hfail (htest text source hnode)⟩

@[simp] theorem answerOf_nil (q : Query) : q.answerOf [] = .ok [] := rfl

theorem answerOf_eq_error {q : Query} {places : List Place} {error : FindError} :
    q.answerOf places = .error error ↔ places.findSome? q.failure? = some error := by
  rw [answerOf]
  cases places.findSome? q.failure? <;> simp

theorem answerOf_isOk {q : Query} {places : List Place} :
    (∃ texts, q.answerOf places = .ok texts) ↔ ∀ p ∈ places, q.failure? p = none := by
  rw [answerOf, ← List.findSome?_eq_none_iff]
  cases places.findSome? q.failure? <;> simp

theorem answerOf_cons_of_failure {q : Query} {p : Place} {error : FindError}
    (h : q.failure? p = some error) (rest : List Place) :
    q.answerOf (p :: rest) = .error error := by
  simp [answerOf, h]

theorem answerOf_cons {q : Query} {p : Place} (h : q.failure? p = none) (rest : List Place) :
    q.answerOf (p :: rest) = (q.answerOf rest).map ((q.accepted? p).toList ++ ·) := by
  simp only [answerOf, List.findSome?_cons, h]
  cases rest.findSome? q.failure? with
  | some error => rfl
  | none => cases haccept : q.accepted? p <;> simp [haccept, Except.map]

@[simp] theorem reached_nil (q : Query) : q.reached [] = [] := rfl

theorem reached_cons_of_failure {q : Query} {p : Place} {error : FindError}
    (h : q.failure? p = some error) (rest : List Place) : q.reached (p :: rest) = [p] := by
  simp [reached, List.findIdx_cons, fails, h]

theorem reached_cons {q : Query} {p : Place} (h : q.failure? p = none) (rest : List Place) :
    q.reached (p :: rest) = p :: q.reached rest := by
  simp [reached, List.findIdx_cons, fails, h]

theorem reached_of_answer {q : Query} {places : List Place}
    (h : places.findSome? q.failure? = none) : q.reached places = places := by
  induction places with
  | nil => rfl
  | cons p rest ih =>
    obtain ⟨hp, hrest⟩ : q.failure? p = none ∧ rest.findSome? q.failure? = none := by
      simpa using h
    rw [reached_cons hp, ih hrest]

theorem reached_of_failure {q : Query} {places : List Place} {error : FindError}
    (h : places.findSome? q.failure? = some error) :
    ∃ front p back, places = front ++ p :: back ∧ q.reached places = front ++ [p] ∧
      (∀ x ∈ front, q.failure? x = none) ∧ q.failure? p = some error := by
  induction places with
  | nil => simp at h
  | cons p rest ih =>
    cases hp : q.failure? p with
    | some e =>
      obtain rfl : e = error := by simpa [List.findSome?_cons, hp] using h
      exact ⟨[], p, rest, rfl, reached_cons_of_failure hp rest, by simp, hp⟩
    | none =>
      obtain ⟨front, last, back, rfl, hreached, hfront, hlast⟩ :=
        ih (by simpa [List.findSome?_cons, hp] using h)
      refine ⟨p :: front, last, back, rfl, ?_, ?_, hlast⟩
      · rw [reached_cons hp, hreached, List.cons_append]
      · exact List.forall_mem_cons.mpr ⟨hp, hfront⟩

theorem mem_of_mem_reached {q : Query} {front back : List Place} {x p : Place} {error : FindError}
    (hx : q.failure? x = some error) (hp : p ∈ q.reached (front ++ x :: back)) :
    p ∈ front ∨ p = x := by
  induction front with
  | nil =>
    rw [List.nil_append, reached_cons_of_failure hx] at hp
    exact .inr (List.mem_singleton.mp hp)
  | cons y front ih =>
    rw [List.cons_append] at hp
    cases hy : q.failure? y with
    | some e =>
      rw [reached_cons_of_failure hy] at hp
      exact .inl (List.mem_singleton.mp hp ▸ List.mem_cons_self)
    | none =>
      rw [reached_cons hy] at hp
      rcases List.mem_cons.mp hp with rfl | hp
      · exact .inl List.mem_cons_self
      · exact (ih hp).imp_left (List.mem_cons_of_mem y)

/-- A document whose search ends with a failing test is searched as far as a text whose test fails.
-/
theorem answer_predicateFailure {q : Query} {root : Node} {name : String} {depth : Nat}
    {source : Failure} (h : q.answer root = .error (.predicateFailure name depth source)) :
    ∃ text, (q.reached root.preorder).getLast? = some ⟨depth, .text text⟩ ∧
      q.test text = .error source := by
  obtain ⟨front, p, _, _, hreached, _, hp⟩ := reached_of_failure (answerOf_eq_error.mp h)
  rcases failure?_eq_some.mp hp with ⟨_, herror⟩ | ⟨_, text, source', hnode, htest, herror⟩
  · cases herror
  · obtain ⟨_, rfl, rfl⟩ := FindError.predicateFailure.inj herror
    refine ⟨text, ?_, htest⟩
    rw [hreached, List.getLast?_concat, ← hnode]

end Query

namespace Finder

/-- The query that a finder answers. Its predicate is never asked about anything but texts. -/
def query (f : Finder) : Query :=
  ⟨f.predicate.name, f.maxDepth, fun text => f.predicate.test (.text text)⟩

/-- A visit ends the search at a failing place, and gives the text of an accepted one. -/
theorem visit_eq (f : Finder) (p : Place) :
    f.visit p = match f.query.failure? p, f.query.accepted? p with
      | some error, _ => .stopped error (f.query.outcome p)
      | none, some text => .found text
      | none, none => .passed (f.query.outcome p) := by
  obtain ⟨depth, node⟩ := p
  unfold visit Query.failure? Query.accepted? Query.outcome judge query
  by_cases hdepth : f.maxDepth < depth
  · simp [hdepth]
  · rcases node with k | s | ⟨form, cs⟩
    · simp [hdepth]
    · cases s with
      | string text =>
        rcases htest : f.predicate.test (.text text) with source | holds
        · simp [hdepth, htest]
        · cases holds <;> simp [hdepth, htest]
      | _ => simp [hdepth]
    · simp [hdepth]

end Finder

end Gleaner
