import Gleaner.Proofs.Predicate.Trace
import Gleaner.Proofs.Schema.Load
/-!
# Nodes that are no text

Every predicate that the test registry makes refuses what is no text, whatever its configuration,
and never fails on it. A loaded constraint cannot look at such a node in any other way, so its
verdict is that of a formula with false leaves, and all that evaluation and trace tell is the same
for every such node. Not that the node is refused: a negation of a predicate holds of it.
-/
namespace Gleaner

namespace Constraint

section Formula

variable (leaf : Predicate → Bool)

mutual
/-- The value of a constraint as a Boolean formula, given the values of its leaves. -/
def formula : Constraint → Bool
  | .single p => leaf p
  | .allOf cs => formulaAll cs
  | .anyOf cs => formulaAny cs
  | .not c => !formula c
def formulaAll : List Constraint → Bool
  | [] => true
  | c :: rest => formula c && formulaAll rest
def formulaAny : List Constraint → Bool
  | [] => false
  | c :: rest => formula c || formulaAny rest
end

theorem formulaAll_eq_all (cs : List Constraint) : formulaAll leaf cs = cs.all (formula leaf) := by
  induction cs with
  | nil => rfl
  | cons c rest ih => rw [formulaAll, ih, List.all_cons]

theorem formulaAny_eq_any (cs : List Constraint) : formulaAny leaf cs = cs.any (formula leaf) := by
  induction cs with
  | nil => rfl
  | cons c rest ih => rw [formulaAny, ih, List.any_cons]

end Formula

variable {a b node : Node}

theorem evaluate_eq_formula (leaf : Predicate → Bool) (c : Constraint)
    (h : ∀ p ∈ c.predicates, p.test node = .ok (leaf p)) :
    c.evaluate node = .ok (c.formula leaf) := by
  induction c using induction with
  | single p => exact h p (List.mem_singleton_self p)
  | allOf cs ih =>
    have hcs := evaluateAll_of_ok fun c hc => ih c hc (forall_of_predicatesAll h c hc)
    rw [evaluate, formula, formulaAll_eq_all, hcs]
  | anyOf cs ih =>
    have hcs := evaluateAny_of_ok fun c hc => ih c hc (forall_of_predicatesAll h c hc)
    rw [evaluate, formula, formulaAny_eq_any, hcs]
  | not c ih => rw [evaluate, ih h, formula]

theorem trace_congr (c : Constraint) (h : ∀ p ∈ c.predicates, p.test a = p.test b) :
    c.trace a = c.trace b := by
  have hparts : ∀ cs : List Constraint, (∀ c ∈ cs, c.trace a = c.trace b) →
      traceAll a cs = traceAll b cs := by
    intro cs hcs
    rw [traceAll_eq_map, traceAll_eq_map]
    exact List.map_congr_left hcs
  induction c using induction with
  | single p => rw [trace, trace, h p (List.mem_singleton_self p)]
  | allOf cs ih =>
    have hcs := hparts cs fun c hc => ih c hc (forall_of_predicatesAll h c hc)
    simp only [trace, hcs]
  | anyOf cs ih =>
    have hcs := hparts cs fun c hc => ih c hc (forall_of_predicatesAll h c hc)
    simp only [trace, hcs]
  | not c ih => simp only [trace, ih h]

end Constraint

namespace Registry

variable {r : Registry}

theorem forall_of_loadAll {motive : Constraint → Prop} {configs : List ConstraintConfig}
    {cs : List Constraint}
    (heach : ∀ config ∈ configs, ∀ c, r.loadConstraint config = .ok c → motive c)
    (h : r.loadAll configs = .ok cs) : ∀ c ∈ cs, motive c := by
  induction configs generalizing cs with
  | nil =>
    cases h
    simp
  | cons config rest ih =>
    obtain ⟨hconfig, hrest⟩ := List.forall_mem_cons.mp heach
    obtain ⟨c, ds, hc, hds, rfl⟩ := loadAll_cons_eq_ok h
    exact List.forall_mem_cons.mpr ⟨hconfig c hc, ih hrest hds⟩

theorem predicates_of_loadConstraint {motive : Predicate → Prop}
    (hsingle : ∀ config p, r.resolve config = .ok p → motive p)
    (hmatching : ∀ spec m, MatchSpec.matcher spec = .ok m → motive (.check m.check))
    {config : ConstraintConfig} {c : Constraint} (h : r.loadConstraint config = .ok c) :
    ∀ p ∈ c.predicates, motive p := by
  have hparts : ∀ {cs : List Constraint}, (∀ c ∈ cs, ∀ p ∈ c.predicates, motive p) →
      ∀ p ∈ Constraint.predicatesAll cs, motive p := by
    intro cs hcs p hp
    obtain ⟨c, hc, hpc⟩ := Constraint.mem_predicatesAll.mp hp
    exact hcs c hc p hpc
  induction config using ConstraintConfig.induction generalizing c with
  | single config =>
    obtain ⟨p, hp, rfl⟩ := loadConstraint_single h
    exact List.forall_mem_singleton.mpr (hsingle config p hp)
  | matching spec =>
    obtain ⟨m, hm, rfl⟩ := loadConstraint_matching h
    exact List.forall_mem_singleton.mpr (hmatching spec m hm)
  | allOf configs ih =>
    obtain ⟨_, cs, hcs, rfl⟩ := loadConstraint_allOf h
    exact hparts (forall_of_loadAll (fun config hmem c => ih config hmem) hcs)
  | anyOf configs ih =>
    obtain ⟨_, cs, hcs, rfl⟩ := loadConstraint_anyOf h
    exact hparts (forall_of_loadAll (fun config hmem c => ih config hmem) hcs)
  | not config ih =>
    obtain ⟨d, hd, rfl⟩ := loadConstraint_not h
    rw [Constraint.predicates]
    exact ih hd

/-- No predicate of a constraint that the test registry loads accepts or fails on what is no text.
-/
theorem test_of_not_text {config : ConstraintConfig} {c : Constraint}
    (h : (RegistryBuilder.registerTest {}).build.loadConstraint config = .ok c) {node : Node}
    (hnode : node.text? = none) : ∀ p ∈ c.predicates, p.test node = .ok false := by
  have honText : ∀ verdict, onText verdict node = .ok false := by
    intro verdict
    rw [onText, hnode]
  refine predicates_of_loadConstraint (fun typed p hp => ?_) (fun spec m hm => ?_) h
  · rw [RegistryBuilder.test_of_resolve hp, honText]
  · exact (MatchSpec.test_of_matcher hm node).trans (honText _)

/-- A constraint that the test registry loads cannot tell nodes apart that are no text. On each of
them it is evaluated without an error, to the value of the constraint as a formula with false
leaves, which is also the verdict of the trace, and no error is recorded. Two such nodes even have
one trace. -/
theorem evaluate_of_not_text {config : ConstraintConfig} {c : Constraint}
    (hload : (RegistryBuilder.registerTest {}).build.loadConstraint config = .ok c) {a b : Node}
    (ha : a.text? = none) (hb : b.text? = none) :
    c.evaluate a = .ok (c.formula fun _ => false) ∧ c.evaluate a = c.evaluate b ∧
      (c.trace a).firstError = none ∧ (c.trace a).matched = (c.formula fun _ => false) ∧
      c.trace a = c.trace b := by
  have htest := test_of_not_text hload ha
  have hother := test_of_not_text hload hb
  have hvalue := c.evaluate_eq_formula (fun _ => false) htest
  have hnone : ∀ p ∈ c.predicates, p.failure? a = none := by
    intro p hp
    rw [Predicate.failure?, htest p hp]
  refine ⟨hvalue, ?_, ?_, ?_, c.trace_congr fun p hp => (htest p hp).trans (hother p hp).symm⟩
  · rw [hvalue, c.evaluate_eq_formula (fun _ => false) hother]
  · rw [Constraint.firstError_trace]
    exact List.findSome?_eq_none_iff.mpr hnone
  · have hmatched := (c.evaluate_eq_matched hnone).symm.trans hvalue
    exact Except.ok.inj hmatched

/-- A negation holds of a null that is declared as text and of a struct with a text in it. Of the
text itself it cannot be said whether it holds, as the table does not know it. -/
theorem evaluate_of_not_text_negation :
    let config : ConstraintConfig := .not (.anyOf [
      .allOf [.matching ⟨.literal .leading, "ye"⟩,
        .not (.single ⟨"typefind.core.v1.CodepointLength", .object [("max", .int 2)]⟩)],
      .single ⟨"typefind.test.v1.Lookup", .object [("accept", .array [.string "no"])]⟩])
    let a : Node := .null .string
    let b : Node := .struct [("k", .text "yet"), ("k", .scalar (.symbol "no"))]
    ∃ c, (RegistryBuilder.registerTest {}).build.loadConstraint config = .ok c ∧
      a.text? = none ∧ b.text? = none ∧ c.evaluate a = .ok true ∧ c.evaluate b = .ok true ∧
      (c.trace b).firstError = none ∧ (c.trace b).matched = true ∧ c.trace a = c.trace b ∧
      c.evaluate (.text "other") = .error ⟨"no table entry for \"other\""⟩ := by
  intro config a b
  have hloads : ∃ c, (RegistryBuilder.registerTest {}).build.loadConstraint config = .ok c ∧
      (c.formula fun _ => false) = true ∧
      c.evaluate (.text "other") = .error ⟨"no table entry for \"other\""⟩ := ⟨_, rfl, rfl, rfl⟩
  obtain ⟨c, hload, hformula, hother⟩ := hloads
  have ha : a.text? = none := rfl
  have hb : b.text? = none := rfl
  obtain ⟨hvalue, hsame, hclean, hmatched, htrace⟩ := evaluate_of_not_text hload ha hb
  rw [hformula] at hvalue hmatched
  rw [htrace] at hclean hmatched
  exact ⟨c, hload, ha, hb, hvalue, hsame.symm.trans hvalue, hclean, hmatched, htrace, hother⟩

end Registry

end Gleaner
