import Gleaner.Proofs.Search.Find
/-!
# Searches, item by item

A search that is asked for one item after another keeps the places that are pending and a count of
the nodes visited, and a single call may pass any number of places. What all later calls reply is
settled by the listing of what is pending: the accepted texts before the first failing place come
one a call, each with the count at its place, then the error of that place if there is one, and then
the same empty reply for ever (`reply_eq`).
-/
namespace Gleaner

/-- What a call for the next item gives: the item, if there is one, and how many nodes have been
visited after the call. -/
structure Reply where
  item : Option (Except FindError String)
  visited : Nat

namespace Query

variable (q : Query)

/-- The accepted texts before the first failing place of a listing, each with the index of its
place. Indices count from the given one. -/
def texts (first : Nat) (places : List Place) : List (String × Nat) :=
  ((places.zipIdx first).takeWhile fun (p, _) => !q.fails p).filterMap fun (p, index) =>
    (q.accepted? p).map (·, index)

/-- The error of the first failing place of a listing, with the index of the place. -/
def firstFailure? (first : Nat) (places : List Place) : Option (FindError × Nat) :=
  (places.zipIdx first).findSome? fun (p, index) => (q.failure? p).map (·, index)

/-- The replies that have an item. -/
def replies (first : Nat) (places : List Place) : List Reply :=
  (q.texts first places).map (fun (text, index) => ⟨some (.ok text), index + 1⟩) ++
    ((q.firstFailure? first places).map fun (error, index) =>
      ⟨some (.error error), index + 1⟩).toList

/-- The reply that has no item. -/
def lastReply (first : Nat) (places : List Place) : Reply :=
  match q.firstFailure? first places with
  | some (_, index) => ⟨none, index + 1⟩
  | none => ⟨none, first + places.length⟩

variable {q} {p : Place} {error : FindError}

theorem texts_cons_of_failure (h : q.failure? p = some error) (first : Nat) (rest : List Place) :
    q.texts first (p :: rest) = [] := by
  simp [texts, fails, h]

theorem texts_cons (h : q.failure? p = none) (first : Nat) (rest : List Place) :
    q.texts first (p :: rest) =
      ((q.accepted? p).map (·, first)).toList ++ q.texts (first + 1) rest := by
  cases haccept : q.accepted? p <;> simp [texts, fails, h, haccept]

theorem firstFailure?_cons_of_failure (h : q.failure? p = some error) (first : Nat)
    (rest : List Place) : q.firstFailure? first (p :: rest) = some (error, first) := by
  simp [firstFailure?, h]

theorem firstFailure?_cons (h : q.failure? p = none) (first : Nat) (rest : List Place) :
    q.firstFailure? first (p :: rest) = q.firstFailure? (first + 1) rest := by
  simp [firstFailure?, h]

theorem replies_cons_of_failure (h : q.failure? p = some error) (first : Nat)
    (rest : List Place) : q.replies first (p :: rest) = [⟨some (.error error), first + 1⟩] := by
  rw [replies, texts_cons_of_failure h, firstFailure?_cons_of_failure h]
  rfl

theorem replies_cons (h : q.failure? p = none) (first : Nat) (rest : List Place) :
    q.replies first (p :: rest) =
      ((q.accepted? p).map fun text => ⟨some (.ok text), first + 1⟩).toList ++
        q.replies (first + 1) rest := by
  rw [replies, texts_cons h, firstFailure?_cons h, replies, List.map_append, List.append_assoc]
  cases q.accepted? p <;> rfl

theorem lastReply_cons_of_failure (h : q.failure? p = some error) (first : Nat)
    (rest : List Place) : q.lastReply first (p :: rest) = ⟨none, first + 1⟩ := by
  rw [lastReply, firstFailure?_cons_of_failure h]

theorem lastReply_cons (h : q.failure? p = none) (first : Nat) (rest : List Place) :
    q.lastReply first (p :: rest) = q.lastReply (first + 1) rest := by
  have hcount : first + (rest.length + 1) = first + 1 + rest.length := by omega
  rw [lastReply, lastReply, firstFailure?_cons h, List.length_cons, hcount]

/-- The answer of a listing is its first failure, or else the texts without their indices. -/
theorem answerOf_eq_texts (first : Nat) (places : List Place) :
    q.answerOf places = match q.firstFailure? first places with
      | some (error, _) => .error error
      | none => .ok ((q.texts first places).map (·.1)) := by
  induction places generalizing first with
  | nil => rfl
  | cons p rest ih =>
    cases hp : q.failure? p with
    | some error => rw [answerOf_cons_of_failure hp, firstFailure?_cons_of_failure hp]
    | none =>
      rw [answerOf_cons hp, firstFailure?_cons hp, texts_cons hp, ih (first + 1)]
      cases q.firstFailure? (first + 1) rest with
      | some failure => rfl
      | none => cases q.accepted? p <;> rfl

end Query

namespace Finder

variable (f : Finder)

/-- The reply to one more call for an item, after the given number of calls. -/
def reply (f : Finder) (c : Cursor) : Nat → Reply
  | 0 => ⟨(f.next c).1, (f.next c).2.visited⟩
  | k + 1 => f.reply (f.next c).2 k

theorem reply_nil (visited k : Nat) : f.reply ⟨[], visited⟩ k = ⟨none, visited⟩ := by
  have hnext : f.next ⟨[], visited⟩ = (none, ⟨[], visited⟩) := by rw [next, advance_nil]
  induction k with
  | zero => rw [reply, hnext]
  | succ k ih => rw [reply, hnext, ih]

theorem reply_congr {c d : Cursor} (h : f.next c = f.next d) (k : Nat) :
    f.reply c k = f.reply d k := by
  cases k with
  | zero => rw [reply, reply, h]
  | succ k => rw [reply, reply, h]

/-- A search replies to each call what the listing of its pending places says. -/
theorem reply_eq (pending : List Place) (visited k : Nat) :
    f.reply ⟨pending, visited⟩ k = (f.query.replies visited (Place.listing pending))[k]?.getD
      (f.query.lastReply visited (Place.listing pending)) := by
  -- A visit takes one place off the listing. If it is passed, the call goes on with the rest;
  -- otherwise this call is answered, and the next one begins with the rest or with nothing.
  induction pending using Place.pending_induction generalizing visited k with
  | nil => exact reply_nil f visited k
  | step p rest ih =>
    have hnext : f.next ⟨p :: rest, visited⟩ = _ := f.advance_cons visited p rest
    rw [visit_eq] at hnext
    rw [Place.listing_step]
    cases hfail : f.query.failure? p with
    | some error =>
      rw [Query.replies_cons_of_failure hfail, Query.lastReply_cons_of_failure hfail]
      rw [hfail] at hnext
      cases k with
      | zero =>
        rw [reply, hnext]
        rfl
      | succ k =>
        rw [reply, hnext, reply_nil]
        rfl
    | none =>
      rw [Query.replies_cons hfail, Query.lastReply_cons hfail]
      rw [hfail] at hnext
      cases haccept : f.query.accepted? p with
      | none =>
        rw [haccept] at hnext
        have hsame : f.next ⟨p :: rest, visited⟩ = f.next ⟨p.open rest, visited + 1⟩ := hnext
        rw [f.reply_congr hsame, ih]
        rfl
      | some text =>
        rw [haccept] at hnext
        cases k with
        | zero =>
          rw [reply, hnext]
          rfl
        | succ k =>
          rw [reply, hnext, ih]
          rfl

theorem reply_start (root : Node) (k : Nat) : f.reply (f.start root) k =
    (f.query.replies 0 root.preorder)[k]?.getD (f.query.lastReply 0 root.preorder) := by
  rw [start, reply_eq, Place.listing_root]

/-- An error that some call replies is the error of the search. -/
theorem answer_of_reply {root : Node} {k : Nat} {error : FindError}
    (h : (f.reply (f.start root) k).item = some (.error error)) :
    f.query.answer root = .error error := by
  rw [reply_start, Query.lastReply] at h
  cases hk : (f.query.replies 0 root.preorder)[k]? with
  | none =>
    rw [hk] at h
    cases hfirst : f.query.firstFailure? 0 root.preorder <;> simp [hfirst] at h
  | some r =>
    rw [hk, Option.getD_some] at h
    rcases List.mem_append.mp (List.mem_of_getElem? hk) with htext | hfailure
    · obtain ⟨_, _, rfl⟩ := List.mem_map.mp htext
      cases h
    · obtain ⟨failure, hfirst, rfl⟩ := Option.map_eq_some_iff.mp (Option.mem_toList.mp hfailure)
      cases h
      rw [Query.answer, Query.answerOf_eq_texts 0, hfirst]

/-- A search that is asked for one item after another gives the accepted texts before the first
failing place in pre-order, then the error of that place if there is one, and nothing from then on.
After an item the count of nodes visited is one more than the index of its place; once there are no
more items it stays where it is, at all nodes or at the failing place. A search for all texts at
once gives these texts, or that error. -/
theorem reply_protocol (root : Node) :
    let texts := f.query.texts 0 root.preorder
    (∀ k text index, texts[k]? = some (text, index) →
      f.reply (f.start root) k = ⟨some (.ok text), index + 1⟩) ∧
    match f.query.firstFailure? 0 root.preorder with
    | some (error, index) => f.find root = .error error ∧
        f.reply (f.start root) texts.length = ⟨some (.error error), index + 1⟩ ∧
        ∀ k, texts.length < k → f.reply (f.start root) k = ⟨none, index + 1⟩
    | none => f.find root = .ok (texts.map (·.1)) ∧
        ∀ k, texts.length ≤ k → f.reply (f.start root) k = ⟨none, root.size⟩ := by
  intro texts
  have hreply : ∀ k, f.reply (f.start root) k =
      (f.query.replies 0 root.preorder)[k]?.getD (f.query.lastReply 0 root.preorder) := fun k => by
    rw [start, reply_eq, Place.listing_root]
  have hfind : f.find root = f.query.answerOf root.preorder := by
    rw [find_eq_report, report_eq, Query.answer]
  rw [hfind, Query.answerOf_eq_texts 0]
  simp only [hreply, Query.replies, Query.lastReply]
  refine ⟨fun k text index hk => ?_, ?_⟩
  · have hlt : k < texts.length := (List.getElem?_eq_some_iff.mp hk).1
    rw [List.getElem?_append_left (by rwa [List.length_map]), List.getElem?_map, hk]
    rfl
  · cases f.query.firstFailure? 0 root.preorder with
    | some failure =>
      refine ⟨rfl, ?_, fun k hk => ?_⟩
      · rw [List.getElem?_append_right (by simp [texts]), List.length_map, Nat.sub_self]
        rfl
      · rw [List.getElem?_eq_none (by simpa using Nat.succ_le_of_lt hk)]
        rfl
    | none =>
      refine ⟨rfl, fun k hk => ?_⟩
      rw [List.getElem?_eq_none (by simpa using hk), ← root.preorder_length, Nat.zero_add]
      rfl

end Finder

end Gleaner
