import Gleaner.Document.Preorder
import Gleaner.Search.Finder
import Mathlib.Algebra.GroupWithZero.Nat
/-!
# Listings of pending places

A search keeps a list of pending places and replaces the first of them by its children.
`Place.listing` is what such a list still holds, in pre-order, and one step of a search takes the
first place off it (`listing_step`). `pending_induction` is the induction that all searches share.

An address names a node by the positions of the children on the way to it. The addresses of a
tree in pre-order are strictly increasing, and every node has one: a pre-order listing names each
node once.
-/
namespace Gleaner

namespace Place

/-- The places still to be visited, and everything below them, in pre-order. -/
def listing (pending : List Place) : List Place :=
  pending.flatMap fun p => p.node.preorderFrom p.depth

@[simp] theorem listing_nil : listing [] = [] := rfl

theorem listing_cons (p : Place) (rest : List Place) :
    listing (p :: rest) = p.node.preorderFrom p.depth ++ listing rest := rfl

theorem listing_append (front back : List Place) :
    listing (front ++ back) = listing front ++ listing back :=
  List.flatMap_append

theorem listing_below (depth : Nat) (cs : List (Option String × Node)) :
    listing (below depth cs) = Node.preorderAll (depth + 1) cs := by
  induction cs with
  | nil => rfl
  | cons c rest ih =>
    simp only [below, List.map_cons, listing_cons, Node.preorderAll] at ih ⊢
    rw [ih]

/-- A pre-order listing starts with the root and goes on with the children. -/
theorem preorderFrom_eq (p : Place) :
    p.node.preorderFrom p.depth = p :: listing (below p.depth p.node.children) := by
  obtain ⟨depth, node⟩ := p
  rw [listing_below]
  cases node <;> rfl

/-- Opening the first pending place takes it off the listing and leaves the rest. -/
theorem listing_step (p : Place) (rest : List Place) :
    listing (p :: rest) = p :: listing (p.open rest) := by
  rw [listing_cons, preorderFrom_eq, «open», listing_append]
  rfl

@[simp] theorem listing_root (root : Node) : listing [⟨0, root⟩] = root.preorder := by
  rw [listing_cons, listing_nil, List.append_nil]
  rfl

/-- What holds when nothing is pending and is kept when a place is opened holds for all pending
places. -/
theorem pending_induction {motive : List Place → Prop} (nil : motive [])
    (step : ∀ p rest, motive (p.open rest) → motive (p :: rest)) (pending : List Place) :
    motive pending := by
  match pending with
  | [] => exact nil
  | p :: rest => exact step p rest (pending_induction nil step (p.open rest))
termination_by weight pending
decreasing_by exact weight_open p rest

theorem weight_step (p : Place) (rest : List Place) :
    weight (p :: rest) = weight (p.open rest) + 1 := by
  obtain ⟨depth, node⟩ := p
  rw [«open», weight_append, weight_below, weight_cons]
  cases node <;> simp only [Node.children, Node.size, Node.sizeAll] <;> omega

theorem listing_length (pending : List Place) : (listing pending).length = weight pending := by
  induction pending using pending_induction with
  | nil => rfl
  | step p rest ih => rw [listing_step, List.length_cons, ih, weight_step]

/-- What a listing has beyond the pending places are the children of the places that it lists. -/
theorem listing_length_eq_children (pending : List Place) : (listing pending).length =
    pending.length + ((listing pending).map fun p => p.node.children.length).sum := by
  induction pending using pending_induction with
  | nil => rfl
  | step p rest ih =>
    have hopen : (p.open rest).length = p.node.children.length + rest.length := by
      simp [«open», below]
    rw [listing_step, List.length_cons, List.map_cons, List.sum_cons, ih, hopen, List.length_cons]
    omega

end Place

namespace Node

theorem preorder_length (n : Node) : n.preorder.length = n.size := by
  rw [← Place.listing_root, Place.listing_length]
  simp

def at? (n : Node) : List Nat → Option Node
  | [] => some n
  | i :: rest => match n.children[i]? with
    | some child => child.2.at? rest
    | none => none

mutual
def addresses : Node → List (List Nat)
  | .null _ => [[]]
  | .scalar _ => [[]]
  | .container _ cs => [] :: addressesAll 0 cs
/-- The addresses of the nodes of a list of children, the first child at the given position. -/
def addressesAll (first : Nat) : List (Option String × Node) → List (List Nat)
  | [] => []
  | (_, n) :: rest => (addresses n).map (first :: ·) ++ addressesAll (first + 1) rest
end

def placeAt? (n : Node) (address : List Nat) : Option Place :=
  (n.at? address).map fun m => ⟨address.length, m⟩

theorem at?_cons (n : Node) (i : Nat) (rest : List Nat) :
    n.at? (i :: rest) = n.children[i]?.bind fun child => child.2.at? rest := by
  rw [at?]
  cases n.children[i]? <;> rfl

mutual
/-- The places at the addresses of a tree are its pre-order listing. -/
theorem map_placeAt?_addresses (n : Node) (depth : Nat) :
    n.addresses.map (fun a => (n.at? a).map (Place.mk (depth + a.length))) =
      (n.preorderFrom depth).map some := by
  match n with
  | .null _ => rfl
  | .scalar _ => rfl
  | .container form cs =>
    have hcs := map_placeAt?_addressesAll (.container form cs) cs [] depth rfl
    simpa [addresses, preorderFrom, at?] using hcs
theorem map_placeAt?_addressesAll (n : Node) (cs before : List (Option String × Node))
    (depth : Nat) (h : n.children = before ++ cs) :
    (addressesAll before.length cs).map (fun a => (n.at? a).map (Place.mk (depth + a.length))) =
      (preorderAll (depth + 1) cs).map some := by
  match cs with
  | [] => rfl
  | (name, child) :: rest =>
    -- Addresses in the last children count on from the children before them.
    have hat : n.children[before.length]? = some (name, child) := by simp [h]
    have hchild := map_placeAt?_addresses child (depth + 1)
    have hrest := map_placeAt?_addressesAll n rest (before ++ [(name, child)]) depth (by simp [h])
    rw [List.length_append, List.length_singleton] at hrest
    rw [addressesAll, preorderAll, List.map_append, List.map_append, hrest, ← hchild,
      List.map_map]
    congr 2
    funext a
    simp only [Function.comp_apply, at?_cons, hat, Option.bind_some, List.length_cons]
    rw [show depth + (a.length + 1) = depth + 1 + a.length by omega]
end

theorem preorder_eq_placeAt? (n : Node) : n.preorder.map some = n.addresses.map n.placeAt? := by
  rw [preorder, ← map_placeAt?_addresses n 0]
  simp only [Nat.zero_add]
  rfl

theorem mem_addressesAll {first : Nat} {cs : List (Option String × Node)} {a : List Nat} :
    a ∈ addressesAll first cs ↔
      ∃ i b, a = (first + i) :: b ∧ ∃ child, cs[i]? = some child ∧ b ∈ child.2.addresses := by
  induction cs generalizing first with
  | nil => simp [addressesAll]
  | cons c rest ih =>
    obtain ⟨name, n⟩ := c
    rw [addressesAll, List.mem_append, List.mem_map, ih]
    constructor
    · rintro (⟨b, hb, rfl⟩ | ⟨i, b, rfl, hchild⟩)
      · exact ⟨0, b, rfl, (name, n), rfl, hb⟩
      · exact ⟨i + 1, b, by rw [Nat.add_assoc, Nat.add_comm 1], hchild⟩
    · rintro ⟨i, b, rfl, child, hi, hb⟩
      cases i with
      | zero =>
        obtain rfl : (name, n) = child := Option.some.inj hi
        exact Or.inl ⟨b, hb, rfl⟩
      | succ i => exact Or.inr ⟨i, b, by rw [Nat.add_assoc, Nat.add_comm 1], child, hi, hb⟩

mutual
/-- In pre-order the addresses increase: a node comes before everything below it, and what is below
an earlier child before what is below a later one. -/
theorem addresses_pairwise (n : Node) : n.addresses.Pairwise (· < ·) := by
  match n with
  | .null _ => exact List.pairwise_singleton _ _
  | .scalar _ => exact List.pairwise_singleton _ _
  | .container _ cs =>
    refine List.pairwise_cons.mpr ⟨?_, addressesAll_pairwise cs 0⟩
    intro a ha
    obtain ⟨i, b, rfl, _⟩ := mem_addressesAll.mp ha
    exact List.nil_lt_cons _ _
theorem addressesAll_pairwise (cs : List (Option String × Node)) (first : Nat) :
    (addressesAll first cs).Pairwise (· < ·) := by
  match cs with
  | [] => exact List.Pairwise.nil
  | (_, n) :: rest =>
    refine List.pairwise_append.mpr ⟨?_, addressesAll_pairwise rest (first + 1), ?_⟩
    · refine (addresses_pairwise n).map _ fun a b hab => ?_
      exact List.cons_lt_cons_iff.mpr (Or.inr ⟨rfl, hab⟩)
    · intro a ha b hb
      obtain ⟨a', _, rfl⟩ := List.mem_map.mp ha
      obtain ⟨i, b', rfl, _⟩ := mem_addressesAll.mp hb
      exact List.cons_lt_cons_iff.mpr (Or.inl (by omega))
end

theorem addresses_nodup (n : Node) : n.addresses.Nodup := by
  refine n.addresses_pairwise.imp ?_
  rintro a b hab rfl
  exact List.lt_irrefl a hab

end Node

end Gleaner
