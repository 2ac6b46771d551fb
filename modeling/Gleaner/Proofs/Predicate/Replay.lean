import Gleaner.Proofs.Predicate.Trace
/-!
# Replaying traces

A trace holds what every predicate of a constraint answered, in the tree of the constraint. That is
enough to evaluate the constraint once more without the node: `replay` reads the answers with the
stops of evaluation and passes over the verdicts that a trace draws from them. So whatever error
ends an evaluation is among those that the trace records, and the trace shows the leftmost of them.
-/
namespace Gleaner

/-- The tree of a constraint, with the names of the predicates at its leaves. -/
inductive Outline where
  | single (predicate : String)
  | allOf (parts : List Outline)
  | anyOf (parts : List Outline)
  | not (part : Outline)

mutual
def Constraint.outline : Constraint → Outline
  | .single p => .single p.name
  | .allOf cs => .allOf (Constraint.outlines cs)
  | .anyOf cs => .anyOf (Constraint.outlines cs)
  | .not c => .not c.outline
def Constraint.outlines : List Constraint → List Outline
  | [] => []
  | c :: rest => c.outline :: Constraint.outlines rest
end

namespace ConstraintTrace

@[elab_as_elim]
theorem induction {motive : ConstraintTrace → Prop}
    (single : ∀ matched predicate error, motive (.single matched predicate error))
    (allOf : ∀ matched ts, (∀ t ∈ ts, motive t) → motive (.allOf matched ts))
    (anyOf : ∀ matched ts, (∀ t ∈ ts, motive t) → motive (.anyOf matched ts))
    (not : ∀ matched t, motive t → motive (.not matched t)) (t : ConstraintTrace) : motive t := by
  match t with
  | .single matched predicate error => exact single matched predicate error
  | .allOf matched ts => exact allOf matched ts fun t _ => induction single allOf anyOf not t
  | .anyOf matched ts => exact anyOf matched ts fun t _ => induction single allOf anyOf not t
  | .not matched t => exact not matched t (induction single allOf anyOf not t)
termination_by sizeOf t
decreasing_by
  all_goals simp_wf
  · have := List.sizeOf_lt_of_mem ‹t ∈ ts›
    omega
  · have := List.sizeOf_lt_of_mem ‹t ∈ ts›
    omega

mutual
def outline : ConstraintTrace → Outline
  | .single _ predicate _ => .single predicate
  | .allOf _ ts => .allOf (outlines ts)
  | .anyOf _ ts => .anyOf (outlines ts)
  | .not _ t => .not t.outline
def outlines : List ConstraintTrace → List Outline
  | [] => []
  | t :: rest => t.outline :: outlines rest
end

mutual
/-- The value of the recorded answers: that of a predicate is its error if it has one, and a
combination stops at the first part that decides it or fails. -/
def replay : ConstraintTrace → Except Failure Bool
  | .single matched _ none => .ok matched
  | .single _ _ (some e) => .error e
  | .allOf _ ts => firstOther true (replays ts)
  | .anyOf _ ts => firstOther false (replays ts)
  | .not _ t => t.replay.map fun holds => !holds
def replays : List ConstraintTrace → List (Except Failure Bool)
  | [] => []
  | t :: rest => t.replay :: replays rest
end

mutual
/-- The errors of the recorded predicates, from left to right. -/
def errors : ConstraintTrace → List Failure
  | .single _ _ error => error.toList
  | .allOf _ ts => errorsAll ts
  | .anyOf _ ts => errorsAll ts
  | .not _ t => t.errors
def errorsAll : List ConstraintTrace → List Failure
  | [] => []
  | t :: rest => t.errors ++ errorsAll rest
end

theorem replays_eq_map (ts : List ConstraintTrace) : replays ts = ts.map replay := by
  induction ts with
  | nil => rfl
  | cons t rest ih => rw [replays, ih, List.map_cons]

theorem mem_errorsAll {ts : List ConstraintTrace} {e : Failure} :
    e ∈ errorsAll ts ↔ ∃ t ∈ ts, e ∈ t.errors := by
  induction ts with
  | nil => simp [errorsAll]
  | cons t rest ih => simp only [errorsAll, List.mem_append, ih, List.mem_cons, exists_eq_or_imp]

theorem firstErrorAll_eq_head? {ts : List ConstraintTrace}
    (h : ∀ t ∈ ts, t.firstError = t.errors.head?) : firstErrorAll ts = (errorsAll ts).head? := by
  induction ts with
  | nil => rfl
  | cons t rest ih =>
    obtain ⟨ht, hrest⟩ := List.forall_mem_cons.mp h
    rw [firstErrorAll, errorsAll, List.head?_append, ht, ih hrest]
    cases t.errors.head? <;> rfl

theorem firstError_eq_head? (t : ConstraintTrace) : t.firstError = t.errors.head? := by
  induction t using induction with
  | single matched predicate error => cases error <;> rfl
  | allOf matched ts ih => exact firstErrorAll_eq_head? ih
  | anyOf matched ts ih => exact firstErrorAll_eq_head? ih
  | not matched t ih => exact ih

theorem exists_replay_of_firstOther {usual : Bool} {ts : List ConstraintTrace} {e : Failure}
    (h : firstOther usual (replays ts) = .error e) : ∃ t ∈ ts, t.replay = .error e := by
  rw [replays_eq_map] at h
  exact List.mem_map.mp (mem_of_firstOther h (by simp))

theorem mem_errors_of_replay {t : ConstraintTrace} {e : Failure} (h : t.replay = .error e) :
    e ∈ t.errors := by
  induction t using induction with
  | single matched predicate error =>
    cases error with
    | none => cases h
    | some recorded =>
      cases h
      exact List.mem_singleton_self e
  | allOf matched ts ih =>
    rw [replay] at h
    obtain ⟨t, ht, hpart⟩ := exists_replay_of_firstOther h
    exact mem_errorsAll.mpr ⟨t, ht, ih t ht hpart⟩
  | anyOf matched ts ih =>
    rw [replay] at h
    obtain ⟨t, ht, hpart⟩ := exists_replay_of_firstOther h
    exact mem_errorsAll.mpr ⟨t, ht, ih t ht hpart⟩
  | not matched t ih =>
    rw [replay] at h
    cases hinner : t.replay with
    | ok holds =>
      rw [hinner] at h
      cases h
    | error inner =>
      rw [hinner] at h
      cases h
      exact ih hinner

end ConstraintTrace

namespace Constraint

variable {node : Node}

theorem outlines_traceAll {cs : List Constraint}
    (h : ∀ c ∈ cs, (c.trace node).outline = c.outline) :
    ConstraintTrace.outlines (traceAll node cs) = outlines cs := by
  induction cs with
  | nil => rfl
  | cons c rest ih =>
    obtain ⟨hc, hrest⟩ := List.forall_mem_cons.mp h
    rw [traceAll, ConstraintTrace.outlines, outlines, hc, ih hrest]

theorem outline_trace (c : Constraint) : (c.trace node).outline = c.outline := by
  induction c using induction with
  | single p =>
    rw [trace]
    cases p.test node <;> rfl
  | allOf cs ih => rw [trace, ConstraintTrace.outline, outline, outlines_traceAll ih]
  | anyOf cs ih => rw [trace, ConstraintTrace.outline, outline, outlines_traceAll ih]
  | not c ih => rw [trace, ConstraintTrace.outline, outline, ih]

theorem replays_traceAll {cs : List Constraint}
    (h : ∀ c ∈ cs, (c.trace node).replay = c.evaluate node) :
    ConstraintTrace.replays (traceAll node cs) = cs.map (evaluate node) := by
  rw [ConstraintTrace.replays_eq_map, traceAll_eq_map, List.map_map]
  exact List.map_congr_left h

/-- Replaying a trace gives what evaluation gives, value or error. -/
theorem replay_trace (c : Constraint) : (c.trace node).replay = c.evaluate node := by
  induction c using induction with
  | single p =>
    rw [trace, evaluate]
    cases p.test node <;> rfl
  | allOf cs ih =>
    rw [trace, ConstraintTrace.replay, replays_traceAll ih, evaluate, evaluateAll_eq_firstOther]
  | anyOf cs ih =>
    rw [trace, ConstraintTrace.replay, replays_traceAll ih, evaluate, evaluateAny_eq_firstOther]
  | not c ih =>
    rw [trace, ConstraintTrace.replay, ih, evaluate]
    cases c.evaluate node <;> rfl

/-- A trace has the tree of its constraint and is replayed to the value or the error that evaluation
gives. An error that evaluation gives is recorded, and the first error of the trace is then the
leftmost one that is recorded. -/
theorem trace_preserves_evaluation (c : Constraint) (node : Node) :
    (c.trace node).outline = c.outline ∧ (c.trace node).replay = c.evaluate node ∧
      ∀ e, c.evaluate node = .error e → e ∈ (c.trace node).errors ∧
        ∃ first, (c.trace node).errors.head? = some first ∧
          (c.trace node).firstError = some first := by
  refine ⟨outline_trace c, replay_trace c, fun e he => ?_⟩
  have hmem : e ∈ (c.trace node).errors :=
    ConstraintTrace.mem_errors_of_replay ((replay_trace c).trans he)
  obtain ⟨first, hfirst⟩ := Option.isSome_iff_exists.mp
    (List.isSome_head?.mpr (List.ne_nil_of_mem hmem))
  exact ⟨hmem, first, hfirst, (ConstraintTrace.firstError_eq_head? _).trans hfirst⟩

end Constraint

end Gleaner
