import Gleaner.Proofs.Predicate.Evaluation
/-!
# The predicates that evaluation calls

`Constraint.run` is evaluation with a log: a call is a predicate and the address of the single
constraint that it stands in. Without the log it is evaluation, and the log is a part of the leaves
of the constraint, in their order and none of them twice.
-/
namespace Gleaner

/-- A call of a predicate. The address of a single constraint is the list of positions that lead to
it; what a negation negates has the position 0. -/
structure Call where
  address : List Nat
  predicate : Predicate

/-- The call, seen from a constraint whose part at the given position makes it. -/
def Call.below (position : Nat) (call : Call) : Call :=
  { call with address := position :: call.address }

namespace Constraint

/-- The constraints that a constraint is directly made of. -/
def parts : Constraint → List Constraint
  | .single _ => []
  | .allOf cs => cs
  | .anyOf cs => cs
  | .not c => [c]

def at? (c : Constraint) : List Nat → Option Constraint
  | [] => some c
  | i :: rest => match c.parts[i]? with
    | some part => part.at? rest
    | none => none

mutual
/-- The single constraints, from left to right, as calls. -/
def leaves : Constraint → List Call
  | .single p => [⟨[], p⟩]
  | .allOf cs => leavesFrom 0 cs
  | .anyOf cs => leavesFrom 0 cs
  | .not c => c.leaves.map (.below 0)
/-- The single constraints of parts, the first part at the given position. -/
def leavesFrom (position : Nat) : List Constraint → List Call
  | [] => []
  | c :: rest => c.leaves.map (.below position) ++ leavesFrom (position + 1) rest
end

mutual
/-- Evaluation with the log of its calls. -/
def run (node : Node) : Constraint → List Call × Except Failure Bool
  | .single p => ([⟨[], p⟩], p.test node)
  | .allOf cs => runParts node true 0 cs
  | .anyOf cs => runParts node false 0 cs
  | .not c =>
    let (calls, verdict) := c.run node
    (calls.map (.below 0), verdict.map fun holds => !holds)
/-- Evaluation of parts up to the first verdict that is not the usual one, with the log of the
calls, the first part at the given position. -/
def runParts (node : Node) (usual : Bool) (position : Nat) :
    List Constraint → List Call × Except Failure Bool
  | [] => ([], .ok usual)
  | c :: rest =>
    let (calls, verdict) := c.run node
    let made := calls.map (.below position)
    match verdict with
    | .ok holds =>
      if holds = usual then
        let (more, last) := runParts node usual (position + 1) rest
        (made ++ more, last)
      else (made, .ok holds)
    | .error e => (made, .error e)
end

/-- The predicates that evaluation calls, in this order. -/
def calls (node : Node) (c : Constraint) : List Call := (c.run node).1

variable {node : Node}

/-! ### Evaluation with and without the log -/

theorem runParts_cons_usual {usual : Bool} {c : Constraint} (h : (c.run node).2 = .ok usual)
    (position : Nat) (rest : List Constraint) :
    runParts node usual position (c :: rest) =
      ((c.run node).1.map (.below position) ++ (runParts node usual (position + 1) rest).1,
        (runParts node usual (position + 1) rest).2) := by
  simp only [runParts, h, if_true]

theorem runParts_cons_other {usual : Bool} {c : Constraint} (h : (c.run node).2 ≠ .ok usual)
    (position : Nat) (rest : List Constraint) :
    runParts node usual position (c :: rest) =
      ((c.run node).1.map (.below position), (c.run node).2) := by
  rw [runParts]
  cases hverdict : (c.run node).2 with
  | ok holds =>
    have hother : holds ≠ usual := fun heq => h (heq ▸ hverdict)
    simp only [hverdict, if_neg hother]
  | error e => simp only [hverdict]

theorem run_combine (usual : Bool) (cs : List Constraint) :
    (combine usual cs).run node = runParts node usual 0 cs := by
  cases usual <;> rfl

theorem runParts_snd {usual : Bool} {cs : List Constraint}
    (h : ∀ c ∈ cs, (c.run node).2 = c.evaluate node) (position : Nat) :
    (runParts node usual position cs).2 = firstOther usual (cs.map (evaluate node)) := by
  induction cs generalizing position with
  | nil => rfl
  | cons c rest ih =>
    obtain ⟨hc, hrest⟩ := List.forall_mem_cons.mp h
    rw [List.map_cons, ← hc]
    by_cases husual : (c.run node).2 = .ok usual
    · rw [runParts_cons_usual husual, ih hrest, husual, firstOther_cons_usual]
    · rw [runParts_cons_other husual, firstOther_cons_other husual]

/-- Without its log, the logged evaluation is evaluation. -/
theorem run_snd (c : Constraint) : (c.run node).2 = c.evaluate node := by
  induction c using combine_induction with
  | single p => rfl
  | combine usual cs ih => rw [run_combine, runParts_snd ih, evaluate_combine]
  | not c ih =>
    rw [evaluate_not_eq_map, ← ih]
    rfl

theorem calls_combine (usual : Bool) (cs : List Constraint) :
    (combine usual cs).calls node = (runParts node usual 0 cs).1 := by
  rw [calls, run_combine]

theorem calls_not (c : Constraint) :
    (Constraint.not c).calls node = (c.calls node).map (.below 0) := rfl

theorem runParts_fst_usual {usual : Bool} {c : Constraint} (h : c.evaluate node = .ok usual)
    (position : Nat) (rest : List Constraint) :
    (runParts node usual position (c :: rest)).1 =
      (c.calls node).map (.below position) ++ (runParts node usual (position + 1) rest).1 := by
  rw [runParts_cons_usual ((run_snd c).trans h), calls]

theorem runParts_fst_other {usual : Bool} {c : Constraint} (h : c.evaluate node ≠ .ok usual)
    (position : Nat) (rest : List Constraint) :
    (runParts node usual position (c :: rest)).1 = (c.calls node).map (.below position) := by
  rw [runParts_cons_other (run_snd c ▸ h), calls]

/-! ### The log is a part of the leaves -/

theorem leaves_combine (usual : Bool) (cs : List Constraint) :
    (combine usual cs).leaves = leavesFrom 0 cs := by
  cases usual <;> rfl

theorem runParts_sublist {usual : Bool} {cs : List Constraint}
    (h : ∀ c ∈ cs, (c.calls node).Sublist c.leaves) (position : Nat) :
    (runParts node usual position cs).1.Sublist (leavesFrom position cs) := by
  induction cs generalizing position with
  | nil => exact .slnil
  | cons c rest ih =>
    obtain ⟨hc, hrest⟩ := List.forall_mem_cons.mp h
    have hhere := hc.map (Call.below position)
    rw [leavesFrom]
    by_cases husual : c.evaluate node = .ok usual
    · rw [runParts_fst_usual husual]
      exact hhere.append (ih hrest (position + 1))
    · rw [runParts_fst_other husual]
      exact hhere.trans (List.sublist_append_left _ _)

/-- Evaluation calls a part of the leaves, in their order. -/
theorem calls_sublist_leaves (c : Constraint) : (c.calls node).Sublist c.leaves := by
  induction c using combine_induction with
  | single p => exact .refl _
  | combine usual cs ih =>
    rw [calls_combine, leaves_combine]
    exact runParts_sublist ih 0
  | not c ih => exact ih.map _

theorem map_address_below (position : Nat) (calls : List Call) :
    (calls.map (.below position)).map Call.address =
      (calls.map Call.address).map (position :: ·) := by
  rw [List.map_map, List.map_map]
  rfl

theorem mem_leavesFrom {position : Nat} {cs : List Constraint} {call : Call} :
    call ∈ leavesFrom position cs ↔ ∃ (i : Nat) (part : Constraint) (inner : Call),
      cs[i]? = some part ∧ inner ∈ part.leaves ∧ call = inner.below (position + i) := by
  induction cs generalizing position with
  | nil => simp [leavesFrom]
  | cons c rest ih =>
    rw [leavesFrom, List.mem_append, List.mem_map, ih]
    constructor
    · rintro (⟨inner, hinner, rfl⟩ | ⟨i, part, inner, hpart, hinner, rfl⟩)
      · exact ⟨0, c, inner, rfl, hinner, rfl⟩
      · exact ⟨i + 1, part, inner, hpart, hinner, by rw [Nat.add_assoc, Nat.add_comm 1]⟩
    · rintro ⟨i, part, inner, hpart, hinner, rfl⟩
      cases i with
      | zero =>
        obtain rfl : c = part := Option.some.inj hpart
        exact .inl ⟨inner, hinner, rfl⟩
      | succ i => exact .inr ⟨i, part, inner, hpart, hinner, by rw [Nat.add_assoc, Nat.add_comm 1]⟩

theorem leavesFrom_pairwise {cs : List Constraint}
    (h : ∀ c ∈ cs, (c.leaves.map Call.address).Pairwise (· < ·)) (position : Nat) :
    ((leavesFrom position cs).map Call.address).Pairwise (· < ·) := by
  induction cs generalizing position with
  | nil => exact .nil
  | cons c rest ih =>
    obtain ⟨hc, hrest⟩ := List.forall_mem_cons.mp h
    rw [leavesFrom, List.map_append, map_address_below, List.pairwise_append]
    refine ⟨?_, ih hrest (position + 1), ?_⟩
    · exact hc.map _ fun a b hab => List.cons_lt_cons_iff.mpr (.inr ⟨rfl, hab⟩)
    · intro a ha b hb
      obtain ⟨a, _, rfl⟩ := List.mem_map.mp ha
      obtain ⟨leaf, hleaf, rfl⟩ := List.mem_map.mp hb
      obtain ⟨i, _, inner, _, _, rfl⟩ := mem_leavesFrom.mp hleaf
      exact List.cons_lt_cons_iff.mpr (.inl (by omega))

theorem leaves_pairwise (c : Constraint) : (c.leaves.map Call.address).Pairwise (· < ·) := by
  induction c using combine_induction with
  | single p => exact List.pairwise_singleton _ _
  | combine usual cs ih =>
    rw [leaves_combine]
    exact leavesFrom_pairwise ih 0
  | not c ih =>
    rw [leaves, map_address_below]
    exact ih.map _ fun a b hab => List.cons_lt_cons_iff.mpr (.inr ⟨rfl, hab⟩)

/-- No leaf is called twice. -/
theorem calls_nodup (c : Constraint) : ((c.calls node).map Call.address).Nodup := by
  have hsublist : ((c.calls node).map Call.address).Sublist (c.leaves.map Call.address) :=
    (calls_sublist_leaves c).map Call.address
  refine (c.leaves_pairwise.sublist hsublist).imp ?_
  rintro a b hab rfl
  exact List.lt_irrefl a hab

theorem parts_combine (usual : Bool) (cs : List Constraint) : (combine usual cs).parts = cs := by
  cases usual <;> rfl

theorem at?_cons (c : Constraint) (i : Nat) (a : List Nat) :
    c.at? (i :: a) = c.parts[i]?.bind fun part => part.at? a := by
  rw [at?]
  cases c.parts[i]? <;> rfl

theorem mem_leaves {c : Constraint} {call : Call} :
    call ∈ c.leaves ↔ c.at? call.address = some (.single call.predicate) := by
  obtain ⟨a, p⟩ := call
  induction c using combine_induction generalizing a with
  | single q =>
    cases a with
    | nil => simp [leaves, at?, eq_comm]
    | cons i b => simp [leaves, at?_cons, parts]
  | combine usual cs ih =>
    cases a with
    | nil =>
      have hne : combine usual cs ≠ .single p := by cases usual <;> simp [combine]
      simp [leaves_combine, mem_leavesFrom, Call.below, at?, hne]
    | cons i b =>
      rw [leaves_combine, mem_leavesFrom, at?_cons, parts_combine, Option.bind_eq_some_iff]
      constructor
      · rintro ⟨j, part, inner, hpart, hinner, hcall⟩
        obtain ⟨ha, rfl⟩ := Call.mk.inj hcall
        obtain ⟨rfl, rfl⟩ := List.cons.inj ha
        rw [Nat.zero_add]
        exact ⟨part, hpart, (ih part (List.mem_of_getElem? hpart) _).mp hinner⟩
      · rintro ⟨part, hpart, hat⟩
        refine ⟨i, part, ⟨b, p⟩, hpart, (ih part (List.mem_of_getElem? hpart) b).mpr hat, ?_⟩
        rw [Nat.zero_add, Call.below]
  | not c ih =>
    cases a with
    | nil => simp [leaves, Call.below, at?]
    | cons i b =>
      rw [leaves, List.mem_map, at?_cons, Option.bind_eq_some_iff]
      constructor
      · rintro ⟨inner, hinner, hcall⟩
        obtain ⟨ha, rfl⟩ := Call.mk.inj hcall
        obtain ⟨rfl, rfl⟩ := List.cons.inj ha
        exact ⟨c, rfl, (ih _).mp hinner⟩
      · rintro ⟨part, hpart, hat⟩
        cases i with
        | zero =>
          obtain rfl : c = part := Option.some.inj hpart
          exact ⟨⟨b, p⟩, (ih b).mpr hat, rfl⟩
        | succ i => cases hpart

end Constraint

end Gleaner
