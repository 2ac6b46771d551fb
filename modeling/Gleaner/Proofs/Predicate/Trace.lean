import Gleaner.Predicate.Trace
import Gleaner.Proofs.Predicate.Evaluation
/-!
# When a trace agrees with evaluation

A trace evaluates what evaluation skips, and its verdict on a negation asks for an error anywhere
below. So the trace of a constraint that holds may say that it does not, as it does for the negation
of a combination that is decided before its failing part. A trace never says of a constraint that it
holds where evaluation finds that it does not, and it says so where evaluation does exactly if the
constraint can be seen to hold without a negation above a failing predicate (`Seen`).
-/
namespace Gleaner.Constraint

variable {node : Node}

theorem traceAll_eq_map (cs : List Constraint) : traceAll node cs = cs.map (trace node) := by
  induction cs with
  | nil => rfl
  | cons c rest ih => rw [traceAll, ih, List.map_cons]

theorem firstErrorAll_trace {cs : List Constraint}
    (h : ∀ c ∈ cs, (c.trace node).firstError = c.predicates.findSome? (·.failure? node)) :
    ConstraintTrace.firstErrorAll (traceAll node cs) =
      (predicatesAll cs).findSome? (·.failure? node) := by
  induction cs with
  | nil => rfl
  | cons c rest ih =>
    obtain ⟨hc, hrest⟩ := List.forall_mem_cons.mp h
    rw [traceAll, ConstraintTrace.firstErrorAll, predicatesAll, List.findSome?_append, hc, ih hrest]
    cases c.predicates.findSome? (·.failure? node) <;> rfl

/-- The first error of a trace is that of the first predicate that fails. -/
theorem firstError_trace (c : Constraint) :
    (c.trace node).firstError = c.predicates.findSome? (·.failure? node) := by
  induction c using induction with
  | single p =>
    rw [trace, predicates, List.findSome?_singleton, Predicate.failure?]
    cases p.test node <;> rfl
  | allOf cs ih => exact firstErrorAll_trace ih
  | anyOf cs ih => exact firstErrorAll_trace ih
  | not c ih => exact ih

theorem matched_allOf (cs : List Constraint) : ((allOf cs).trace node).matched = true ↔
    ∀ c ∈ cs, (c.trace node).matched = true := by
  rw [trace, ConstraintTrace.matched, traceAll_eq_map, List.all_map, List.all_eq_true]
  rfl

theorem matched_anyOf (cs : List Constraint) : ((anyOf cs).trace node).matched = true ↔
    ∃ c ∈ cs, (c.trace node).matched = true := by
  rw [trace, ConstraintTrace.matched, traceAll_eq_map, List.any_map, List.any_eq_true]
  rfl

/-- The trace of a negation says that it holds if nothing below fails and the trace of what it
negates does not say so. -/
theorem matched_not (c : Constraint) : ((Constraint.not c).trace node).matched = true ↔
    (∀ p ∈ c.predicates, p.failure? node = none) ∧ (c.trace node).matched = false := by
  rw [trace, ConstraintTrace.matched, firstError_trace, Bool.and_eq_true, Bool.not_eq_true',
    Option.isNone_iff_eq_none, List.findSome?_eq_none_iff]

/-- Where no predicate fails, evaluation and trace agree. -/
theorem evaluate_eq_matched (c : Constraint) (h : ∀ p ∈ c.predicates, p.failure? node = none) :
    c.evaluate node = .ok (c.trace node).matched := by
  induction c using induction with
  | single p =>
    obtain ⟨holds, htest⟩ := Predicate.test_of_failure?_eq_none (h p (List.mem_singleton_self p))
    rw [evaluate, trace, htest]
    rfl
  | allOf cs ih =>
    have hcs := evaluateAll_of_ok fun c hc => ih c hc (forall_of_predicatesAll h c hc)
    rw [evaluate, hcs, trace, ConstraintTrace.matched, traceAll_eq_map, List.all_map]
    rfl
  | anyOf cs ih =>
    have hcs := evaluateAny_of_ok fun c hc => ih c hc (forall_of_predicatesAll h c hc)
    rw [evaluate, hcs, trace, ConstraintTrace.matched, traceAll_eq_map, List.any_map]
    rfl
  | not c ih =>
    have hclean : (c.trace node).firstError = none := by
      rw [firstError_trace]
      exact List.findSome?_eq_none_iff.mpr h
    rw [evaluate_not, ih h, trace, ConstraintTrace.matched, hclean]
    simp

/-- A constraint that is seen to hold: a predicate that accepts the node, a combination of all with
all its parts, a combination of any with one of its parts, and the negation of a constraint that
does not hold and none of whose predicates fails. -/
inductive Seen (node : Node) : Constraint → Prop
  | single {p : Predicate} (accepts : p.test node = .ok true) : Seen node (.single p)
  | allOf {cs : List Constraint} (parts : ∀ c ∈ cs, Seen node c) : Seen node (.allOf cs)
  | anyOf {cs : List Constraint} {c : Constraint} (member : c ∈ cs) (part : Seen node c) :
      Seen node (.anyOf cs)
  | not {c : Constraint} (refuted : c.evaluate node = .ok false)
      (clean : ∀ p ∈ c.predicates, p.failure? node = none) : Seen node (.not c)

/-- The trace of a constraint says that it holds exactly if it is seen to hold. -/
theorem matched_iff_seen (c : Constraint) : (c.trace node).matched = true ↔ Seen node c := by
  induction c using induction with
  | single p =>
    have hmatched : ((single p).trace node).matched = true ↔ p.test node = .ok true := by
      rw [trace]
      cases p.test node <;> simp [ConstraintTrace.ofAnswer, ConstraintTrace.matched]
    rw [hmatched]
    exact ⟨.single, fun | .single h => h⟩
  | allOf cs ih =>
    rw [matched_allOf]
    constructor
    · exact fun h => .allOf fun c hc => (ih c hc).mp (h c hc)
    · intro h
      cases h with
      | allOf parts => exact fun c hc => (ih c hc).mpr (parts c hc)
  | anyOf cs ih =>
    rw [matched_anyOf]
    constructor
    · rintro ⟨c, hc, hmatched⟩
      exact .anyOf hc ((ih c hc).mp hmatched)
    · intro h
      cases h with
      | anyOf hc part => exact ⟨_, hc, (ih _ hc).mpr part⟩
  | not c _ =>
    -- Nothing below fails here, so the trace of the inner constraint can be trusted.
    rw [matched_not]
    constructor
    · rintro ⟨hclean, hmatched⟩
      refine .not ?_ hclean
      rw [evaluate_eq_matched c hclean, hmatched]
    · intro h
      cases h with
      | not refuted clean =>
        rw [evaluate_eq_matched c clean] at refuted
        exact ⟨clean, Except.ok.inj refuted⟩

/-- What is seen to hold is never found not to hold. -/
theorem Seen.evaluate_ne_false {c : Constraint} (h : Seen node c) :
    c.evaluate node ≠ .ok false := by
  induction h with
  | single accepts => simp [evaluate, accepts]
  | allOf parts ih =>
    intro hfalse
    obtain ⟨c, hc, hpart⟩ := exists_of_evaluateAll_eq_false hfalse
    exact ih c hc hpart
  | anyOf hc part ih => exact fun hfalse => ih (evaluateAny_eq_false.mp hfalse _ hc)
  | not refuted clean => simp [evaluate, refuted]

/-- The trace of a constraint agrees with its value, where it has one, exactly if the constraint is
seen to hold wherever it holds. -/
theorem trace_agrees_iff (c : Constraint) (node : Node) :
    (∀ holds, c.evaluate node = .ok holds → (c.trace node).matched = holds) ↔
      (c.evaluate node = .ok true → Seen node c) := by
  constructor
  · intro h htrue
    exact (matched_iff_seen c).mp (h true htrue)
  · rintro h (_ | _) hvalue
    · refine Bool.eq_false_iff.mpr fun hmatched => ?_
      exact ((matched_iff_seen c).mp hmatched).evaluate_ne_false hvalue
    · exact (matched_iff_seen c).mpr (h hvalue)

/-- A negation holds of a text that its first part rejects, although its second part fails; its
trace says that it does not hold. -/
theorem trace_not_of_hidden_failure :
    let rejects : Check := .ofTextFunction "rejects" fun _ => false
    let fails : Check := .ofFunction "fails" fun _ => .error ⟨"boom"⟩
    let c : Constraint := .not (.allOf [.ofCheck rejects, .ofCheck fails])
    c.evaluate (.text "x") = .ok true ∧ (c.trace (.text "x")).matched = false :=
  ⟨rfl, rfl⟩

end Gleaner.Constraint
