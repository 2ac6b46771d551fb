import Gleaner.Proofs.Predicate.Evaluation
/-!
# Rewriting constraints

The laws of Boolean algebra that keep the parts in their order hold of evaluation exactly, also
where parts fail: a negation goes through a combination and turns it into the other one, two
negations cancel, and a combination inside one of its kind can be spliced in. So negations can be
moved down to the predicates, and the normal form gives the same verdict or the same error.
-/
namespace Gleaner

/-- The opposite verdict. A failure has no opposite and stays. -/
def opposite (v : Except Failure Bool) : Except Failure Bool := v.map fun holds => !holds

theorem opposite_opposite (v : Except Failure Bool) : opposite (opposite v) = v := by
  rcases v with e | holds
  · rfl
  · simp [opposite, Except.map]

theorem opposite_eq_ok {v : Except Failure Bool} {usual : Bool} :
    opposite v = .ok !usual ↔ v = .ok usual := by
  rcases v with e | holds
  · simp [opposite, Except.map]
  · simp [opposite, Except.map]

theorem firstOther_map_opposite (usual : Bool) (verdicts : List (Except Failure Bool)) :
    firstOther (!usual) (verdicts.map opposite) = opposite (firstOther usual verdicts) := by
  induction verdicts with
  | nil => rfl
  | cons v rest ih =>
    rw [List.map_cons]
    by_cases hv : v = .ok usual
    · have hopposite : opposite v = .ok !usual := opposite_eq_ok.mpr hv
      rw [hopposite, firstOther_cons_usual, ih, hv, firstOther_cons_usual]
    · have hopposite : opposite v ≠ .ok !usual := fun h => hv (opposite_eq_ok.mp h)
      rw [firstOther_cons_other hopposite, firstOther_cons_other hv]

theorem firstOther_front (usual : Bool) (inner back : List (Except Failure Bool)) :
    firstOther usual (firstOther usual inner :: back) = firstOther usual (inner ++ back) := by
  induction inner with
  | nil => exact firstOther_cons_usual usual back
  | cons v inner ih =>
    rw [List.cons_append]
    by_cases hv : v = .ok usual
    · rw [hv, firstOther_cons_usual, firstOther_cons_usual, ih]
    · rw [firstOther_cons_other hv, firstOther_cons_other hv, firstOther_cons_other hv]

theorem firstOther_splice (usual : Bool) (front inner back : List (Except Failure Bool)) :
    firstOther usual (front ++ firstOther usual inner :: back) =
      firstOther usual (front ++ inner ++ back) := by
  induction front with
  | nil => exact firstOther_front usual inner back
  | cons v front ih =>
    simp only [List.cons_append]
    by_cases hv : v = .ok usual
    · rw [hv, firstOther_cons_usual, firstOther_cons_usual, ih]
    · rw [firstOther_cons_other hv, firstOther_cons_other hv]

namespace Constraint

variable {node : Node}

theorem evaluate_not_eq_opposite (c : Constraint) :
    (Constraint.not c).evaluate node = opposite (c.evaluate node) :=
  evaluate_not_eq_map c

theorem evaluate_not_not (c : Constraint) :
    (Constraint.not (.not c)).evaluate node = c.evaluate node := by
  rw [evaluate_not_eq_opposite, evaluate_not_eq_opposite, opposite_opposite]

/-- A negated combination is the other combination of the negated parts. -/
theorem evaluate_not_combine (usual : Bool) (cs : List Constraint) :
    (Constraint.not (combine usual cs)).evaluate node =
      (combine (!usual) (cs.map .not)).evaluate node := by
  have hparts : (cs.map Constraint.not).map (evaluate node) =
      (cs.map (evaluate node)).map opposite := by
    rw [List.map_map, List.map_map]
    exact List.map_congr_left fun c _ => evaluate_not_eq_opposite c
  rw [evaluate_not_eq_opposite, evaluate_combine, evaluate_combine, hparts,
    firstOther_map_opposite]

/-- The parts of a combination inside one of its kind can stand in its place. -/
theorem evaluate_combine_splice (usual : Bool) (front inner back : List Constraint) :
    (combine usual (front ++ combine usual inner :: back)).evaluate node =
      (combine usual (front ++ inner ++ back)).evaluate node := by
  rw [evaluate_combine, evaluate_combine, List.map_append, List.map_cons, evaluate_combine,
    firstOther_splice, List.map_append, List.map_append]

mutual
/-- The normal form of a constraint, or of its negation if the sign is `false`: negations have moved
down to the predicates. -/
def normalForm (sign : Bool) : Constraint → Constraint
  | .single p => match sign with
    | true => .single p
    | false => .not (.single p)
  | .allOf cs => combine sign (normalForms sign cs)
  | .anyOf cs => combine (!sign) (normalForms sign cs)
  | .not c => c.normalForm (!sign)
def normalForms (sign : Bool) : List Constraint → List Constraint
  | [] => []
  | c :: rest => c.normalForm sign :: normalForms sign rest
end

/-- Negations stand at predicates only. -/
inductive Normal : Constraint → Prop
  | single (p : Predicate) : Normal (.single p)
  | negated (p : Predicate) : Normal (.not (.single p))
  | allOf {cs : List Constraint} (parts : ∀ c ∈ cs, Normal c) : Normal (.allOf cs)
  | anyOf {cs : List Constraint} (parts : ∀ c ∈ cs, Normal c) : Normal (.anyOf cs)

theorem normalForms_eq_map (sign : Bool) (cs : List Constraint) :
    normalForms sign cs = cs.map (normalForm sign) := by
  induction cs with
  | nil => rfl
  | cons c rest ih => rw [normalForms, ih, List.map_cons]

theorem normalForm_combine (sign usual : Bool) (cs : List Constraint) :
    (combine usual cs).normalForm sign = combine (sign == usual) (cs.map (normalForm sign)) := by
  rw [← normalForms_eq_map]
  cases usual with
  | true => rw [combine, normalForm, beq_true]
  | false => rw [combine, normalForm, beq_false]

theorem Normal.combine {cs : List Constraint} (h : ∀ c ∈ cs, Normal c) (usual : Bool) :
    Normal (combine usual cs) := by
  cases usual with
  | true => exact .allOf h
  | false => exact .anyOf h

theorem normal_normalForm (c : Constraint) (sign : Bool) : Normal (c.normalForm sign) := by
  induction c using combine_induction generalizing sign with
  | single p =>
    cases sign with
    | true => exact .single p
    | false => exact .negated p
  | combine usual cs ih =>
    have hparts : ∀ d ∈ cs.map (normalForm sign), Normal d := by
      rw [List.forall_mem_map]
      exact fun c hc => ih c hc sign
    rw [normalForm_combine]
    exact Normal.combine hparts _
  | not c ih =>
    rw [normalForm]
    exact ih _

theorem predicates_normalForm (c : Constraint) (sign : Bool) :
    (c.normalForm sign).predicates = c.predicates := by
  induction c using combine_induction generalizing sign with
  | single p => cases sign <;> rfl
  | combine usual cs ih =>
    have hparts : (cs.map (normalForm sign)).map predicates = cs.map predicates := by
      rw [List.map_map]
      exact List.map_congr_left fun c hc => ih c hc sign
    rw [normalForm_combine, predicates_combine, predicates_combine, List.flatMap_def, hparts,
      List.flatMap_def]
  | not c ih =>
    rw [normalForm, ih, predicates]

/-- A normal form evaluates as its constraint does; that for the negation gives the opposite. -/
theorem evaluate_normalForm (c : Constraint) :
    (c.normalForm true).evaluate node = c.evaluate node ∧
      (c.normalForm false).evaluate node = opposite (c.evaluate node) := by
  induction c using combine_induction with
  | single p => exact ⟨rfl, evaluate_not_eq_opposite (.single p)⟩
  | combine usual cs ih =>
    have htrue : (cs.map (normalForm true)).map (evaluate node) = cs.map (evaluate node) := by
      rw [List.map_map]
      exact List.map_congr_left fun c hc => (ih c hc).1
    have hfalse : (cs.map (normalForm false)).map (evaluate node) =
        (cs.map (evaluate node)).map opposite := by
      rw [List.map_map, List.map_map]
      exact List.map_congr_left fun c hc => (ih c hc).2
    constructor
    · rw [normalForm_combine, Bool.true_beq, evaluate_combine, evaluate_combine, htrue]
    · rw [normalForm_combine, Bool.false_beq, evaluate_combine, evaluate_combine, hfalse,
        firstOther_map_opposite]
  | not c ih =>
    rw [normalForm, normalForm, evaluate_not_eq_opposite, opposite_opposite]
    exact ⟨ih.2, ih.1⟩

/-- De Morgan's laws, double negation and the splicing of combinations hold of evaluation exactly,
for the error that ends it too, and each constraint evaluates as its normal form does, which has the
same predicates in the same order. -/
theorem evaluate_rewritten (node : Node) :
    (∀ cs, (Constraint.not (.allOf cs)).evaluate node = (anyOf (cs.map .not)).evaluate node) ∧
    (∀ cs, (Constraint.not (.anyOf cs)).evaluate node = (allOf (cs.map .not)).evaluate node) ∧
    (∀ c, (Constraint.not (.not c)).evaluate node = c.evaluate node) ∧
    (∀ xs ys zs, (allOf (xs ++ .allOf ys :: zs)).evaluate node =
      (allOf (xs ++ ys ++ zs)).evaluate node) ∧
    (∀ xs ys zs, (anyOf (xs ++ .anyOf ys :: zs)).evaluate node =
      (anyOf (xs ++ ys ++ zs)).evaluate node) ∧
    ∀ c : Constraint, Normal (c.normalForm true) ∧
      (c.normalForm true).predicates = c.predicates ∧
      (c.normalForm true).evaluate node = c.evaluate node :=
  ⟨evaluate_not_combine true, evaluate_not_combine false, evaluate_not_not,
    evaluate_combine_splice true, evaluate_combine_splice false,
    fun c => ⟨normal_normalForm c true, predicates_normalForm c true, (evaluate_normalForm c).1⟩⟩

end Constraint

end Gleaner
