import Gleaner.Proofs.Document.Listing
/-!
# Depths in a listing

Measuring the depth of a tree and searching it go through the same pending places. A bound on the
depth of a tree is therefore a bound on the depth of every place in its listing (`depth_le_iff`),
and the depth that is measured is the height of the tree (`depth_eq_height`). One step opens a place
and so goes down by one level at most: the first place of a listing that lies below a bound lies
right below it (`depth_of_first_below`).
-/
namespace Gleaner

namespace Place

/-- Opening a place leaves its children, one level further down, and what was pending before. -/
theorem depth_of_mem_open {p x : Place} {rest : List Place} (h : x ∈ p.open rest) :
    x.depth = p.depth + 1 ∨ x ∈ rest := by
  rcases List.mem_append.mp h with hchild | hrest
  · obtain ⟨child, _, rfl⟩ := List.mem_map.mp hchild
    exact Or.inl rfl
  · exact Or.inr hrest

/-- Where nothing is pending more than one level below a bound, the first listed place that lies
below the bound lies one level below it. -/
theorem depth_of_first_below {bound : Nat} {pending front back : List Place} {p : Place}
    (hpending : ∀ x ∈ pending, x.depth ≤ bound + 1)
    (hsplit : listing pending = front ++ p :: back) (hfront : ∀ x ∈ front, x.depth ≤ bound)
    (hbelow : bound < p.depth) : p.depth = bound + 1 := by
  -- The hypothesis on pending places is kept by each step that opens a place within the bound, and
  -- the place that is not within the bound was pending itself.
  induction pending using pending_induction generalizing front with
  | nil => simp at hsplit
  | step first rest ih =>
    rw [listing_step] at hsplit
    cases front with
    | nil =>
      obtain ⟨rfl, _⟩ := List.cons.inj hsplit
      have hlevel := hpending first List.mem_cons_self
      omega
    | cons x front =>
      obtain ⟨rfl, htail⟩ := List.cons.inj hsplit
      obtain ⟨hfirst, hfront⟩ := List.forall_mem_cons.mp hfront
      refine ih (fun y hy => ?_) htail hfront
      rcases depth_of_mem_open hy with hchild | hrest
      · omega
      · exact hpending y (List.mem_cons_of_mem first hrest)

end Place

namespace Node

theorem depthFrom_cons (deepest : Nat) (p : Place) (rest : List Place) :
    depthFrom deepest (p :: rest) = depthFrom (max deepest p.depth) (p.open rest) := by
  obtain ⟨depth, node⟩ := p
  cases node with
  | null k => simp [depthFrom, Place.open, Place.below, children]
  | scalar s => simp [depthFrom, Place.open, Place.below, children]
  | container form cs =>
    rw [depthFrom]
    rfl

theorem depthFrom_le_iff {deepest bound : Nat} {pending : List Place} :
    depthFrom deepest pending ≤ bound ↔
      deepest ≤ bound ∧ ∀ p ∈ Place.listing pending, p.depth ≤ bound := by
  induction pending using Place.pending_induction generalizing deepest with
  | nil => simp [depthFrom]
  | step p rest ih =>
    rw [depthFrom_cons, ih, Place.listing_step, List.forall_mem_cons, Nat.max_le, and_assoc]

theorem depth_le_iff {n : Node} {bound : Nat} :
    n.depth ≤ bound ↔ ∀ p ∈ n.preorder, p.depth ≤ bound := by
  rw [depth, depthFrom_le_iff, Place.listing_root]
  exact and_iff_right (Nat.zero_le bound)

mutual
theorem depth_preorderFrom_le_iff (n : Node) (depth bound : Nat) :
    (∀ p ∈ n.preorderFrom depth, p.depth ≤ bound) ↔ depth + n.height ≤ bound := by
  match n with
  | .null k => simp [preorderFrom, height]
  | .scalar s => simp [preorderFrom, height]
  | .container form cs =>
    rw [preorderFrom, List.forall_mem_cons, height]
    constructor
    · rintro ⟨hroot, hcs⟩
      exact (depth_preorderAll_le_iff cs hroot).mp hcs
    · intro h
      have hroot : depth ≤ bound := Nat.le_trans (Nat.le_add_right _ _) h
      exact ⟨hroot, (depth_preorderAll_le_iff cs hroot).mpr h⟩
theorem depth_preorderAll_le_iff (cs : List (Option String × Node)) {depth bound : Nat}
    (hroot : depth ≤ bound) :
    (∀ p ∈ preorderAll (depth + 1) cs, p.depth ≤ bound) ↔ depth + heightAll cs ≤ bound := by
  match cs with
  | [] => simpa [preorderAll, heightAll] using hroot
  | (name, n) :: rest =>
    rw [preorderAll, List.forall_mem_append, depth_preorderFrom_le_iff n,
      depth_preorderAll_le_iff rest hroot, heightAll]
    omega
end

theorem depth_eq_height (n : Node) : n.depth = n.height := by
  have hiff : ∀ bound, n.depth ≤ bound ↔ n.height ≤ bound := fun bound => by
    rw [depth_le_iff, preorder, depth_preorderFrom_le_iff, Nat.zero_add]
  exact Nat.le_antisymm ((hiff _).mpr (Nat.le_refl _)) ((hiff _).mp (Nat.le_refl _))

theorem exists_of_lt_depth {n : Node} {bound : Nat} (h : bound < n.depth) :
    ∃ p ∈ n.preorder, bound < p.depth := by
  have hnot : ¬ ∀ p ∈ n.preorder, p.depth ≤ bound := fun hall =>
    Nat.not_le.mpr h (depth_le_iff.mpr hall)
  simpa using hnot

theorem exists_deepest (n : Node) : ∃ p ∈ n.preorder, p.depth = n.depth := by
  cases hdepth : n.depth with
  | zero =>
    refine ⟨⟨0, n⟩, ?_, rfl⟩
    rw [← Place.listing_root, Place.listing_step]
    exact List.mem_cons_self
  | succ bound =>
    obtain ⟨p, hp, hbelow⟩ := exists_of_lt_depth (show bound < n.depth by omega)
    have hle := depth_le_iff.mp (Nat.le_refl n.depth) p hp
    exact ⟨p, hp, by omega⟩

theorem max?_depth_preorder (n : Node) : (n.preorder.map (·.depth)).max? = some n.depth := by
  obtain ⟨p, hp, hdepth⟩ := n.exists_deepest
  rw [List.max?_eq_some_iff]
  exact ⟨hdepth ▸ List.mem_map_of_mem hp,
    List.forall_mem_map.mpr (depth_le_iff.mp (Nat.le_refl n.depth))⟩

end Node

end Gleaner
