import Gleaner.Proofs.Search.Item
/-!
# What a search sees

A search sees how a document nests, the order of its nodes and its texts, and nothing else. The
skeleton of a document keeps just these. Of a place a search sees the depth and the text, if it has
one (`Place.visible`). What it sees of the listing of a document is read off the skeleton, and what
it replies is read off what it sees: documents with one skeleton are searched alike.
-/
namespace Gleaner

/-- What remains of a document without kinds, names and values that are not texts. -/
inductive Skeleton where
  | blank
  | text (value : String)
  | branch (children : List Skeleton)

namespace Skeleton

mutual
/-- The places that a search sees of a document with this skeleton, the root at the given depth.
What is no text is seen as a null. -/
def placesFrom (depth : Nat) : Skeleton → List Place
  | .blank => [⟨depth, .null .null⟩]
  | .text value => [⟨depth, .text value⟩]
  | .branch children => ⟨depth, .null .null⟩ :: placesAll (depth + 1) children
/-- The places that a search sees of documents with these skeletons, one after another. -/
def placesAll (depth : Nat) : List Skeleton → List Place
  | [] => []
  | s :: rest => placesFrom depth s ++ placesAll depth rest
end

end Skeleton

namespace Node

mutual
/-- The skeleton of a document. Nulls of any kind and scalars that are not texts are blank. -/
def skeleton : Node → Skeleton
  | .null _ => .blank
  | .scalar s => match s.text? with
    | some text => .text text
    | none => .blank
  | .container _ cs => .branch (skeletons cs)
def skeletons : List (Option String × Node) → List Skeleton
  | [] => []
  | (_, n) :: rest => skeleton n :: skeletons rest
end

end Node

namespace Place

/-- What a search sees of a place: its depth and its text. What is no text is seen as a null. -/
def visible (p : Place) : Place :=
  ⟨p.depth, match p.node.text? with
    | some text => .text text
    | none => .null .null⟩

end Place

namespace Node

mutual
theorem map_visible_preorderFrom (n : Node) (depth : Nat) :
    (n.preorderFrom depth).map Place.visible = n.skeleton.placesFrom depth := by
  match n with
  | .null _ => rfl
  | .scalar s => cases s <;> rfl
  | .container form cs =>
    rw [preorderFrom, skeleton, Skeleton.placesFrom, List.map_cons,
      map_visible_preorderAll cs (depth + 1)]
    rfl
theorem map_visible_preorderAll (cs : List (Option String × Node)) (depth : Nat) :
    (preorderAll depth cs).map Place.visible = Skeleton.placesAll depth (skeletons cs) := by
  match cs with
  | [] => rfl
  | (_, n) :: rest =>
    rw [preorderAll, skeletons, Skeleton.placesAll, List.map_append, map_visible_preorderFrom n,
      map_visible_preorderAll rest]
end

/-- What a search sees of a document is settled by its skeleton. -/
theorem map_visible_preorder (n : Node) :
    n.preorder.map Place.visible = n.skeleton.placesFrom 0 :=
  n.map_visible_preorderFrom 0

end Node

namespace Query

variable (q : Query)

theorem failure?_visible (p : Place) : q.failure? p.visible = q.failure? p := by
  obtain ⟨depth, node⟩ := p
  rcases node with k | s | ⟨form, cs⟩
  · rfl
  · cases s <;> rfl
  · rfl

theorem accepted?_visible (p : Place) : q.accepted? p.visible = q.accepted? p := by
  obtain ⟨depth, node⟩ := p
  rcases node with k | s | ⟨form, cs⟩
  · rfl
  · cases s <;> rfl
  · rfl

theorem answerOf_visible (places : List Place) :
    q.answerOf (places.map Place.visible) = q.answerOf places := by
  have hfailure : q.failure? ∘ Place.visible = q.failure? := funext q.failure?_visible
  have haccepted : q.accepted? ∘ Place.visible = q.accepted? := funext q.accepted?_visible
  rw [answerOf, answerOf, List.findSome?_map, List.filterMap_map, hfailure, haccepted]

theorem replies_visible (first : Nat) (places : List Place) :
    q.replies first (places.map Place.visible) = q.replies first places ∧
      q.lastReply first (places.map Place.visible) = q.lastReply first places := by
  induction places generalizing first with
  | nil => exact ⟨rfl, rfl⟩
  | cons p rest ih =>
    have hfailure := q.failure?_visible p
    rw [List.map_cons]
    cases hp : q.failure? p with
    | some error =>
      rw [hp] at hfailure
      rw [replies_cons_of_failure hp, replies_cons_of_failure hfailure,
        lastReply_cons_of_failure hp, lastReply_cons_of_failure hfailure]
      exact ⟨rfl, rfl⟩
    | none =>
      rw [hp] at hfailure
      obtain ⟨hreplies, hlast⟩ := ih (first + 1)
      rw [replies_cons hp, replies_cons hfailure, lastReply_cons hp, lastReply_cons hfailure,
        hreplies, hlast, accepted?_visible]
      exact ⟨rfl, rfl⟩

end Query

namespace Finder

/-- Documents with the same skeleton are searched alike: with the same texts or the same error, the
same count, and the same reply to each call for an item. Kinds of containers, field names, declared
kinds of nulls and all values but texts make no difference. -/
theorem search_of_skeleton (f : Finder) {a b : Node} (h : a.skeleton = b.skeleton) :
    f.find a = f.find b ∧ f.count a = f.count b ∧
      ∀ k, f.reply (f.start a) k = f.reply (f.start b) k := by
  have hvisible : a.preorder.map Place.visible = b.preorder.map Place.visible := by
    rw [a.map_visible_preorder, b.map_visible_preorder, h]
  have hanswer : f.query.answer a = f.query.answer b := by
    rw [Query.answer, Query.answer, ← f.query.answerOf_visible a.preorder, hvisible,
      f.query.answerOf_visible]
  refine ⟨?_, ?_, fun k => ?_⟩
  · rw [find_eq_report, find_eq_report, report_eq, report_eq, hanswer]
  · rw [count_eq, count_eq, hanswer]
  · obtain ⟨hreplies, hlast⟩ := f.query.replies_visible 0 a.preorder
    obtain ⟨hreplies', hlast'⟩ := f.query.replies_visible 0 b.preorder
    rw [reply_start, reply_start, ← hreplies, ← hlast, hvisible, hreplies', hlast']

/-- A struct with repeated names, a null declared as a list and a number, and an s-expression with
another null, a symbol and bytes. -/
theorem search_of_skeleton_struct :
    let fields : Node := .struct [("x", .text "t"), ("x", .null .list), ("y", .list []),
      ("z", .scalar (.int 3))]
    let items : Node := .sexp [.text "t", .scalar (.symbol "x"), .sexp [], .null .string]
    let f : Finder := ⟨.check .acceptAll, 1⟩
    fields.skeleton = items.skeleton ∧ f.find fields = .ok ["t"] ∧ f.find items = .ok ["t"] ∧
      f.count items = .ok 1 ∧ ∀ k, f.reply (f.start fields) k = f.reply (f.start items) k := by
  intro fields items f
  have hskeleton : fields.skeleton = items.skeleton := rfl
  have hfind : f.find fields = .ok ["t"] := by
    rw [find_eq_report, report_eq]
    rfl
  have hcount : f.count fields = .ok 1 := by
    rw [count_eq]
    rfl
  obtain ⟨hfinds, hcounts, hreplies⟩ := search_of_skeleton f hskeleton
  exact ⟨hskeleton, hfind, hfinds.symm.trans hfind, hcounts.symm.trans hcount, hreplies⟩

end Finder

end Gleaner
