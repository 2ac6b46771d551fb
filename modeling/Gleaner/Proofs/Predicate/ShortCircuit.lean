import Gleaner.Predicate.Trace
import Gleaner.Proofs.Predicate.Calls
/-!
# Where evaluation stops

Within a combination, nothing is called after the part that decides it; where evaluation fails, the
predicate that fails is the last one called. So what is not called has no influence: with other
predicates in its place, evaluation gives the same verdict and makes the same calls. A trace does
not stop and calls every leaf.
-/
namespace Gleaner.Constraint

variable {node : Node}

/-! ### Where the log ends -/

theorem mem_runParts_cons {usual : Bool} {position : Nat} {c : Constraint} {rest : List Constraint}
    {call : Call} : call ∈ (runParts node usual position (c :: rest)).1 ↔
      call ∈ (c.calls node).map (.below position) ∨
      c.evaluate node = .ok usual ∧ call ∈ (runParts node usual (position + 1) rest).1 := by
  by_cases husual : c.evaluate node = .ok usual
  · rw [runParts_fst_usual husual, List.mem_append]
    simp only [husual, true_and]
  · rw [runParts_fst_other husual]
    simp only [husual, false_and, or_false]

/-- A call made for parts is made for one of them, and all parts before it have the usual verdict.
-/
theorem exists_of_mem_runParts {usual : Bool} {position : Nat} {cs : List Constraint} {call : Call}
    (h : call ∈ (runParts node usual position cs).1) :
    ∃ (i : Nat) (part : Constraint) (inner : Call), cs[i]? = some part ∧
      inner ∈ part.calls node ∧ call = inner.below (position + i) ∧
      ∀ j < i, ∀ d : Constraint, cs[j]? = some d → d.evaluate node = .ok usual := by
  induction cs generalizing position with
  | nil => simp [runParts] at h
  | cons c rest ih =>
    rcases mem_runParts_cons.mp h with hmem | ⟨husual, hmem⟩
    · obtain ⟨inner, hinner, rfl⟩ := List.mem_map.mp hmem
      exact ⟨0, c, inner, rfl, hinner, rfl, fun j hj => absurd hj (Nat.not_lt_zero j)⟩
    · obtain ⟨i, part, inner, hpart, hinner, rfl, hbefore⟩ := ih hmem
      refine ⟨i + 1, part, inner, hpart, hinner, by rw [Nat.add_assoc, Nat.add_comm 1], ?_⟩
      intro j hj d hd
      cases j with
      | zero =>
        obtain rfl : c = d := Option.some.inj hd
        exact husual
      | succ j => exact hbefore j (by omega) d hd

theorem exists_part_of_mem_calls {c : Constraint} {call : Call} {i : Nat} {b : List Nat}
    (hcall : call ∈ c.calls node) (haddress : call.address = i :: b) :
    ∃ (part : Constraint) (inner : Call), c.parts[i]? = some part ∧ inner ∈ part.calls node ∧
      inner.address = b := by
  induction c using combine_induction with
  | single p =>
    obtain rfl : call = ⟨[], p⟩ := List.mem_singleton.mp hcall
    cases haddress
  | combine usual cs _ =>
    rw [calls_combine] at hcall
    obtain ⟨j, part, inner, hpart, hinner, rfl, _⟩ := exists_of_mem_runParts hcall
    obtain ⟨hj, hb⟩ := List.cons.inj haddress
    rw [Nat.zero_add] at hj
    exact ⟨part, inner, by rw [parts_combine, ← hj, hpart], hinner, hb⟩
  | not c _ =>
    obtain ⟨inner, hinner, rfl⟩ := List.mem_map.mp hcall
    obtain ⟨rfl, hb⟩ := List.cons.inj haddress
    exact ⟨c, inner, rfl, hinner, hb⟩

theorem exists_inner_of_mem_calls {c d : Constraint} {call : Call} {a b : List Nat}
    (hat : c.at? a = some d) (hcall : call ∈ c.calls node) (haddress : call.address = a ++ b) :
    ∃ inner ∈ d.calls node, inner.address = b := by
  induction a generalizing c call with
  | nil =>
    obtain rfl : c = d := Option.some.inj hat
    exact ⟨call, hcall, haddress⟩
  | cons i rest ih =>
    obtain ⟨part, inner, hpart, hinner, hinnerAddress⟩ :=
      exists_part_of_mem_calls hcall haddress
    rw [at?_cons, hpart, Option.bind_some] at hat
    exact ih hat hinner hinnerAddress

/-- Within a combination at any address, nothing after a part with another verdict than the usual
one is called. -/
theorem le_of_mem_calls (usual : Bool) {c : Constraint} {a : List Nat} {cs : List Constraint}
    (hat : c.at? a = some (combine usual cs)) {i : Nat} {part : Constraint}
    (hpart : cs[i]? = some part) (hverdict : part.evaluate node ≠ .ok usual) {call : Call}
    (hcall : call ∈ c.calls node) {j : Nat} {b : List Nat}
    (haddress : call.address = a ++ j :: b) : j ≤ i := by
  obtain ⟨inner, hinner, hinnerAddress⟩ := exists_inner_of_mem_calls hat hcall haddress
  rw [calls_combine] at hinner
  obtain ⟨k, _, leaf, _, _, rfl, hbefore⟩ := exists_of_mem_runParts hinner
  have hk : k = j := by simpa [Call.below] using (List.cons.inj hinnerAddress).1
  refine Nat.le_of_not_lt fun hlt => ?_
  exact hverdict (hbefore i (by omega) part hpart)

/-! ### How the log accounts for the verdict -/

/-- No call in the log failed, or the last one did, with the error of the verdict. -/
def Accounts (node : Node) (calls : List Call) : Except Failure Bool → Prop
  | .ok _ => ∀ call ∈ calls, call.predicate.failure? node = none
  | .error e => ∃ earlier last, calls = earlier ++ [last] ∧ last.predicate.test node = .error e ∧
      ∀ call ∈ earlier, call.predicate.failure? node = none

theorem Accounts.below {calls : List Call} {v : Except Failure Bool} (h : Accounts node calls v)
    (position : Nat) : Accounts node (calls.map (.below position)) v := by
  rcases v with e | holds
  · obtain ⟨earlier, last, rfl, hlast, hearlier⟩ := h
    refine ⟨earlier.map (.below position), last.below position, by simp, hlast, ?_⟩
    exact List.forall_mem_map.mpr hearlier
  · exact List.forall_mem_map.mpr h

theorem Accounts.map {calls : List Call} {v : Except Failure Bool} (h : Accounts node calls v)
    (f : Bool → Bool) : Accounts node calls (v.map f) := by
  rcases v with e | holds
  · exact h
  · exact h

theorem Accounts.append {front back : List Call} {v : Except Failure Bool} {holds : Bool}
    (hfront : Accounts node front (.ok holds)) (hback : Accounts node back v) :
    Accounts node (front ++ back) v := by
  rcases v with e | _
  · obtain ⟨earlier, last, rfl, hlast, hearlier⟩ := hback
    refine ⟨front ++ earlier, last, by rw [List.append_assoc], hlast, ?_⟩
    exact List.forall_mem_append.mpr ⟨hfront, hearlier⟩
  · exact List.forall_mem_append.mpr ⟨hfront, hback⟩

theorem accounts_runParts {usual : Bool} {cs : List Constraint}
    (h : ∀ c ∈ cs, Accounts node (c.calls node) (c.evaluate node)) (position : Nat) :
    Accounts node (runParts node usual position cs).1
      (firstOther usual (cs.map (evaluate node))) := by
  induction cs generalizing position with
  | nil => exact fun call hcall => absurd hcall (List.not_mem_nil)
  | cons c rest ih =>
    obtain ⟨hc, hrest⟩ := List.forall_mem_cons.mp h
    have hhere := hc.below position
    rw [List.map_cons]
    by_cases husual : c.evaluate node = .ok usual
    · rw [husual] at hhere
      rw [runParts_fst_usual husual, husual, firstOther_cons_usual]
      exact hhere.append (ih hrest (position + 1))
    · rw [runParts_fst_other husual, firstOther_cons_other husual]
      exact hhere

/-- Where evaluation fails, it does so with the last predicate that it calls, and no other one that
it calls fails. -/
theorem accounts_calls (c : Constraint) : Accounts node (c.calls node) (c.evaluate node) := by
  induction c using combine_induction with
  | single p =>
    show Accounts node [⟨[], p⟩] (p.test node)
    cases htest : p.test node with
    | ok holds =>
      refine List.forall_mem_singleton.mpr ?_
      simp [Predicate.failure?, htest]
    | error e => exact ⟨[], ⟨[], p⟩, rfl, htest, by simp⟩
  | combine usual cs ih =>
    rw [calls_combine, evaluate_combine]
    exact accounts_runParts ih 0
  | not c ih =>
    rw [calls_not, evaluate_not_eq_map]
    exact (ih.below 0).map _

/-! ### What is not called -/

mutual
/-- The constraint with other predicates, chosen for each leaf. -/
def replace (choose : Call → Predicate) : Constraint → Constraint
  | .single p => .single (choose ⟨[], p⟩)
  | .allOf cs => .allOf (replaceFrom choose 0 cs)
  | .anyOf cs => .anyOf (replaceFrom choose 0 cs)
  | .not c => .not (c.replace fun call => choose (call.below 0))
def replaceFrom (choose : Call → Predicate) (position : Nat) : List Constraint → List Constraint
  | [] => []
  | c :: rest =>
    c.replace (fun call => choose (call.below position)) :: replaceFrom choose (position + 1) rest
end

theorem replace_combine (choose : Call → Predicate) (usual : Bool) (cs : List Constraint) :
    (combine usual cs).replace choose = combine usual (replaceFrom choose 0 cs) := by
  cases usual <;> rfl

theorem runParts_replaceFrom {usual : Bool} {cs : List Constraint}
    (ih : ∀ c ∈ cs, ∀ choose : Call → Predicate,
      (∀ call ∈ c.calls node, choose call = call.predicate) →
        (c.replace choose).run node = c.run node)
    {choose : Call → Predicate} {position : Nat}
    (h : ∀ call ∈ (runParts node usual position cs).1, choose call = call.predicate) :
    runParts node usual position (replaceFrom choose position cs) =
      runParts node usual position cs := by
  induction cs generalizing position with
  | nil => rfl
  | cons c rest ihRest =>
    obtain ⟨hc, hrest⟩ := List.forall_mem_cons.mp ih
    -- The first part is run as before in either case, so the loop goes on as before or stops.
    rw [replaceFrom]
    by_cases husual : c.evaluate node = .ok usual
    · rw [runParts_fst_usual husual, List.forall_mem_append, List.forall_mem_map] at h
      have hsame := hc _ h.1
      have hrun : (c.run node).2 = .ok usual := (run_snd c).trans husual
      rw [runParts_cons_usual hrun, runParts_cons_usual (hsame ▸ hrun), hsame,
        ihRest hrest h.2]
    · rw [runParts_fst_other husual, List.forall_mem_map] at h
      have hsame := hc _ h
      have hrun : (c.run node).2 ≠ .ok usual := run_snd c ▸ husual
      rw [runParts_cons_other hrun, runParts_cons_other (hsame ▸ hrun), hsame]

/-- Other predicates in place of those that are not called change neither the verdict nor the
log. -/
theorem run_replace (c : Constraint) (choose : Call → Predicate)
    (h : ∀ call ∈ c.calls node, choose call = call.predicate) :
    (c.replace choose).run node = c.run node := by
  induction c using combine_induction generalizing choose with
  | single p =>
    have hp : choose ⟨[], p⟩ = p := h ⟨[], p⟩ (List.mem_singleton_self _)
    rw [replace, hp]
  | combine usual cs ih =>
    rw [calls_combine] at h
    rw [replace_combine, run_combine, run_combine, runParts_replaceFrom ih h]
  | not c ih =>
    rw [calls_not, List.forall_mem_map] at h
    rw [replace, run, run, ih _ h]

/-! ### What a trace calls -/

mutual
def runTrace (node : Node) : Constraint → List Call × ConstraintTrace
  | .single p => ([⟨[], p⟩], .ofAnswer p.name (p.test node))
  | .allOf cs =>
    let (calls, ts) := runTraces node 0 cs
    (calls, .allOf (ts.all ConstraintTrace.matched) ts)
  | .anyOf cs =>
    let (calls, ts) := runTraces node 0 cs
    (calls, .anyOf (ts.any ConstraintTrace.matched) ts)
  | .not c =>
    let (calls, t) := c.runTrace node
    (calls.map (.below 0), .not (t.firstError.isNone && !t.matched) t)
def runTraces (node : Node) (position : Nat) : List Constraint → List Call × List ConstraintTrace
  | [] => ([], [])
  | c :: rest =>
    let (calls, t) := c.runTrace node
    let (more, ts) := runTraces node (position + 1) rest
    (calls.map (.below position) ++ more, t :: ts)
end

theorem runTraces_eq {cs : List Constraint}
    (h : ∀ c ∈ cs, c.runTrace node = (c.leaves, c.trace node)) (position : Nat) :
    runTraces node position cs = (leavesFrom position cs, traceAll node cs) := by
  induction cs generalizing position with
  | nil => rfl
  | cons c rest ih =>
    obtain ⟨hc, hrest⟩ := List.forall_mem_cons.mp h
    simp only [runTraces, hc, ih hrest, leavesFrom, traceAll]

theorem runTrace_eq (c : Constraint) : c.runTrace node = (c.leaves, c.trace node) := by
  induction c using induction with
  | single p => rfl
  | allOf cs ih => simp only [runTrace, runTraces_eq ih, leaves, trace]
  | anyOf cs ih => simp only [runTrace, runTraces_eq ih, leaves, trace]
  | not c ih => simp only [runTrace, ih, leaves, trace]

/-- What evaluation calls: some of the leaves from left to right, none twice; within an `allOf`
nothing after a part that does not hold or fails, within an `anyOf` nothing after a part that holds
or fails; if it fails, the predicate with this error last and none before that fails. Whatever
stands in place of the other leaves changes neither verdict nor calls. A trace calls all leaves. -/
theorem evaluation_calls (c : Constraint) (node : Node) :
    (c.run node).2 = c.evaluate node ∧
    (∀ call, call ∈ c.leaves ↔ c.at? call.address = some (.single call.predicate)) ∧
    (c.leaves.map Call.address).Pairwise (· < ·) ∧
    (c.calls node).Sublist c.leaves ∧ ((c.calls node).map Call.address).Nodup ∧
    (∀ a cs i part, c.at? a = some (.allOf cs) → cs[i]? = some part →
      part.evaluate node ≠ .ok true →
        ∀ call ∈ c.calls node, ∀ j b, call.address = a ++ j :: b → j ≤ i) ∧
    (∀ a cs i part, c.at? a = some (.anyOf cs) → cs[i]? = some part →
      part.evaluate node ≠ .ok false →
        ∀ call ∈ c.calls node, ∀ j b, call.address = a ++ j :: b → j ≤ i) ∧
    (∀ e, c.evaluate node = .error e → ∃ earlier last, c.calls node = earlier ++ [last] ∧
      last.predicate.test node = .error e ∧
        ∀ call ∈ earlier, call.predicate.failure? node = none) ∧
    (∀ choose : Call → Predicate, (∀ call ∈ c.calls node, choose call = call.predicate) →
      (c.replace choose).evaluate node = c.evaluate node ∧
        (c.replace choose).calls node = c.calls node) ∧
    c.runTrace node = (c.leaves, c.trace node) := by
  have hfailure : ∀ e, c.evaluate node = .error e → Accounts node (c.calls node) (.error e) :=
    fun e he => he ▸ accounts_calls c
  have hreplace : ∀ choose : Call → Predicate,
      (∀ call ∈ c.calls node, choose call = call.predicate) →
        (c.replace choose).evaluate node = c.evaluate node ∧
          (c.replace choose).calls node = c.calls node := by
    intro choose hchoose
    have hrun := run_replace c choose hchoose
    rw [← run_snd, ← run_snd, calls, calls, hrun]
    exact ⟨rfl, rfl⟩
  refine ⟨run_snd c, fun call => mem_leaves, leaves_pairwise c, calls_sublist_leaves c,
    calls_nodup c, ?_, ?_, hfailure, hreplace, runTrace_eq c⟩
  · intro a cs i part hat hpart hverdict call hcall j b haddress
    exact le_of_mem_calls true hat hpart hverdict hcall haddress
  · intro a cs i part hat hpart hverdict call hcall j b haddress
    exact le_of_mem_calls false hat hpart hverdict hcall haddress

end Gleaner.Constraint
