import Gleaner.Predicate.Constraint
import Gleaner.Search.Event
/-!
# Finding texts

A finder visits the nodes of a document in pre-order, with a list of places that are still to be
visited. Nulls are leaves, containers are never tested, and of the scalars only texts are. The
search fails as a whole at the first node that lies too deep or whose test fails.
-/
namespace Gleaner

/-- The depth to which a finder descends unless told otherwise. The root is at depth 0. -/
def defaultMaxDepth : Nat := 512

/-- A predicate and a bound on depth. -/
structure Finder where
  predicate : Predicate
  maxDepth : Nat := defaultMaxDepth

inductive Outcome where
  | skippedNull
  | descended (children : Nat)
  | matched | rejected
  | notText
  | failed
  | tooDeep
  deriving DecidableEq, Repr

/-- The result of one visit: a text was found, the node gave nothing, or the search is over. -/
inductive Visit where
  | found (text : String)
  | passed (outcome : Outcome)
  | stopped (error : FindError) (outcome : Outcome)

def Visit.outcome : Visit → Outcome
  | .found _ => .matched
  | .passed o => o
  | .stopped _ o => o

namespace Finder

def judge (f : Finder) (depth : Nat) (text : String) : Visit :=
  match f.predicate.test (.text text) with
  | .ok true => .found text
  | .ok false => .passed .rejected
  | .error source => .stopped (.predicateFailure f.predicate.name depth source) .failed

/-- Visits one place. The bound on depth comes before anything else. -/
def visit (f : Finder) (p : Place) : Visit :=
  if f.maxDepth < p.depth then .stopped (.depthExceeded p.depth f.maxDepth) .tooDeep
  else match p.node with
    | .null _ => .passed .skippedNull
    | .container _ cs => .passed (.descended cs.length)
    | .scalar (.string text) => f.judge p.depth text
    | .scalar _ => .passed .notText

end Finder

/-- The places that a visit leaves to be visited: the children first. -/
def Place.open (p : Place) (rest : List Place) : List Place :=
  Place.below p.depth p.node.children ++ rest

theorem Place.weight_open (p : Place) (rest : List Place) :
    Place.weight (p.open rest) < Place.weight (p :: rest) := by
  obtain ⟨depth, node⟩ := p
  cases node <;> simp [Place.open, Node.children, Place.weight_below, Node.size, Node.sizeAll]

/-- A search under way: the places still to be visited, and how many nodes have been visited. -/
structure Cursor where
  pending : List Place
  visited : Nat

namespace Finder

def start (_ : Finder) (root : Node) : Cursor := ⟨[⟨0, root⟩], 0⟩

/-- Visits places until one gives an item, which is a text or the error that ends the search. -/
def advance (f : Finder) (visited : Nat) : List Place → Option (Except FindError String) × Cursor
  | [] => (none, ⟨[], visited⟩)
  | p :: rest =>
    match f.visit p with
    | .found text => (some (.ok text), ⟨p.open rest, visited + 1⟩)
    | .passed _ => f.advance (visited + 1) (p.open rest)
    | .stopped error _ => (some (.error error), ⟨[], visited + 1⟩)
termination_by pending => Place.weight pending
decreasing_by exact Place.weight_open p rest

def next (f : Finder) (c : Cursor) : Option (Except FindError String) × Cursor :=
  f.advance c.visited c.pending

theorem advance_weight (f : Finder) (visited : Nat) (pending : List Place)
    {item : Except FindError String} (h : (f.advance visited pending).1 = some item) :
    Place.weight (f.advance visited pending).2.pending < Place.weight pending := by
  fun_induction f.advance visited pending with
  | case1 => simp at h
  | case2 _ p rest _ _ => exact Place.weight_open p rest
  | case3 _ p rest _ _ ih => exact Nat.lt_trans (ih h) (Place.weight_open p rest)
  | case4 _ p rest _ _ _ =>
    simp only [Place.weight_nil, Place.weight_cons]
    have := p.node.size_pos
    omega

/-- Combines the texts of a search one after another. Gives the result, or the error that ended the
search, and the number of nodes visited. -/
def fold {α : Type} (f : Finder) (combine : α → String → α) (acc : α) (c : Cursor) :
    Except FindError α × Nat :=
  match _h : f.next c with
  | (none, c') => (.ok acc, c'.visited)
  | (some (.error error), c') => (.error error, c'.visited)
  | (some (.ok text), c') => f.fold combine (combine acc text) c'
termination_by Place.weight c.pending
decreasing_by
  have hitem : (f.advance c.visited c.pending).1 = some (.ok text) := congrArg Prod.fst _h
  have hcursor : (f.advance c.visited c.pending).2 = c' := congrArg Prod.snd _h
  rw [← hcursor]
  exact f.advance_weight c.visited c.pending hitem

/-- The texts that conform in document order, or the error that ended the search; with it the number
of nodes visited. -/
def report (f : Finder) (root : Node) : Except FindError (List String) × Nat :=
  match f.fold (fun found text => text :: found) [] (f.start root) with
  | (.ok found, visited) => (.ok found.reverse, visited)
  | (.error error, visited) => (.error error, visited)

/-- The notice of a search that is over. -/
def event (f : Finder) (root : Node) : Event :=
  match f.report root with
  | (.ok found, visited) => .findSuccess f.predicate.name visited found.length
  | (.error error, visited) => .findFailure f.predicate.name visited error

/-- What a search returns, and the notices that it has given by then. -/
def logged (f : Finder) (root : Node) : Except FindError (List String) × List Event :=
  ((f.report root).1, [f.event root])

/-- The texts of a document that conform, in document order, or the error that ended the search. -/
def find (f : Finder) (root : Node) : Except FindError (List String) := (f.logged root).1

def notices (f : Finder) (root : Node) : List Event := (f.logged root).2

/-- The number of texts of a document that conform, without collecting them. -/
def count (f : Finder) (root : Node) : Except FindError Nat :=
  (f.fold (fun n _ => n + 1) 0 (f.start root)).1

end Finder

end Gleaner
