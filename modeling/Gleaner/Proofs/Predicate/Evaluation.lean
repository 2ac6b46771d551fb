import Gleaner.Predicate.Constraint
/-!
# Evaluating constraints

Evaluation of a combination stops at the first part that decides it, so the value of the whole is
the first of those of its parts that is not the usual one (`firstOther`): it says something of all
parts where no part decides, and of the deciding one otherwise.
`Constraint.induction` is induction on combinations, which leaves the named types inside single
predicates alone; `Constraint.named_induction` goes into them.
-/
namespace Gleaner

def Predicate.failure? (node : Node) (p : Predicate) : Option Failure :=
  match p.test node with
  | .ok _ => none
  | .error e => some e

theorem Predicate.test_of_failure?_eq_none {node : Node} {p : Predicate}
    (h : p.failure? node = none) : ∃ holds, p.test node = .ok holds := by
  unfold failure? at h
  cases htest : p.test node with
  | ok holds => exact ⟨holds, rfl⟩
  | error e => simp [htest] at h

/-- The first verdict that is not the usual one, be it an error or not, or else the usual one. This
is a conjunction from left to right that stops early, if verdicts usually are that something holds,
and such a disjunction, if they usually are that it does not. -/
def firstOther (usual : Bool) (verdicts : List (Except Failure Bool)) : Except Failure Bool :=
  (verdicts.find? fun
    | .ok holds => holds != usual
    | .error _ => true).getD (.ok usual)

theorem firstOther_cons (usual : Bool) (v : Except Failure Bool)
    (rest : List (Except Failure Bool)) :
    (v = .ok usual ∧ firstOther usual (v :: rest) = firstOther usual rest) ∨
    (v ≠ .ok usual ∧ firstOther usual (v :: rest) = v) := by
  unfold firstOther
  rcases v with e | holds
  · exact .inr ⟨by simp, by simp⟩
  · by_cases h : holds = usual
    · exact .inl ⟨by simp [h], by simp [h]⟩
    · exact .inr ⟨by simp [h], by simp [h]⟩

theorem firstOther_cons_usual (usual : Bool) (rest : List (Except Failure Bool)) :
    firstOther usual (.ok usual :: rest) = firstOther usual rest := by
  rcases firstOther_cons usual (.ok usual) rest with ⟨_, h⟩ | ⟨h, _⟩
  · exact h
  · exact absurd rfl h

theorem firstOther_cons_other {usual : Bool} {v : Except Failure Bool} (hv : v ≠ .ok usual)
    (rest : List (Except Failure Bool)) : firstOther usual (v :: rest) = v := by
  rcases firstOther_cons usual v rest with ⟨h, _⟩ | ⟨_, h⟩
  · exact absurd h hv
  · exact h

theorem firstOther_eq_usual {usual : Bool} {verdicts : List (Except Failure Bool)} :
    firstOther usual verdicts = .ok usual ↔ ∀ v ∈ verdicts, v = .ok usual := by
  induction verdicts with
  | nil => simp [firstOther]
  | cons v rest ih =>
    rw [List.forall_mem_cons]
    rcases firstOther_cons usual v rest with ⟨hv, hfirst⟩ | ⟨hv, hfirst⟩
    · rw [hfirst, ih]
      simp [hv]
    · rw [hfirst]
      simp [hv]

theorem mem_of_firstOther {usual : Bool} {verdicts : List (Except Failure Bool)}
    {v : Except Failure Bool} (h : firstOther usual verdicts = v) (hv : v ≠ .ok usual) :
    v ∈ verdicts := by
  induction verdicts with
  | nil => exact absurd h.symm hv
  | cons w rest ih =>
    rcases firstOther_cons usual w rest with ⟨_, hfirst⟩ | ⟨_, hfirst⟩
    · exact List.mem_cons_of_mem w (ih (hfirst ▸ h))
    · exact List.mem_cons.mpr (.inl (h.symm.trans hfirst))

/-- A combination fails with the error of a part all parts before which have the usual verdict. -/
theorem firstOther_map_eq_error {α : Type} {usual : Bool} {value : α → Except Failure Bool}
    {parts : List α} {e : Failure} : firstOther usual (parts.map value) = .error e ↔
      ∃ front part back, parts = front ++ part :: back ∧ (∀ b ∈ front, value b = .ok usual) ∧
        value part = .error e := by
  induction parts with
  | nil => simp [firstOther]
  | cons a rest ih =>
    rw [List.map_cons]
    rcases firstOther_cons usual (value a) (rest.map value) with ⟨ha, hfirst⟩ | ⟨ha, hfirst⟩
    · rw [hfirst, ih]
      constructor
      · rintro ⟨front, part, back, rfl, hfront, hpart⟩
        exact ⟨a :: front, part, back, rfl, List.forall_mem_cons.mpr ⟨ha, hfront⟩, hpart⟩
      · rintro ⟨front, part, back, hsplit, hfront, hpart⟩
        cases front with
        | nil =>
          obtain ⟨rfl, _⟩ := List.cons.inj hsplit
          cases ha.symm.trans hpart
        | cons b front =>
          obtain ⟨_, hrest⟩ := List.cons.inj hsplit
          exact ⟨front, part, back, hrest, (List.forall_mem_cons.mp hfront).2, hpart⟩
    · rw [hfirst]
      constructor
      · intro h
        exact ⟨[], a, rest, rfl, by simp, h⟩
      · rintro ⟨front, part, back, hsplit, hfront, hpart⟩
        cases front with
        | nil =>
          obtain ⟨rfl, _⟩ := List.cons.inj hsplit
          exact hpart
        | cons b front =>
          obtain ⟨rfl, _⟩ := List.cons.inj hsplit
          exact absurd (hfront a List.mem_cons_self) ha

namespace Constraint

/-- The combination whose parts usually have the given verdict: of all constraints of a list, if
they usually hold, and of any of them, if they usually do not. -/
def combine : Bool → List Constraint → Constraint
  | true, cs => .allOf cs
  | false, cs => .anyOf cs

/-- Induction that goes into named types. -/
@[elab_as_elim]
theorem named_induction {motive : Constraint → Prop} (check : ∀ c, motive (.single (.check c)))
    (named : ∀ name c, motive c → motive (.single (.named name c)))
    (combine : ∀ usual cs, (∀ c ∈ cs, motive c) → motive (combine usual cs))
    (not : ∀ c, motive c → motive (.not c)) (c : Constraint) : motive c := by
  match c with
  | .single (.check c) => exact check c
  | .single (.named name c) => exact named name c (named_induction check named combine not c)
  | .allOf cs => exact combine true cs fun c _ => named_induction check named combine not c
  | .anyOf cs => exact combine false cs fun c _ => named_induction check named combine not c
  | .not c => exact not c (named_induction check named combine not c)
termination_by sizeOf c
decreasing_by
  all_goals simp_wf
  · omega
  · have := List.sizeOf_lt_of_mem ‹c ∈ cs›
    omega
  · have := List.sizeOf_lt_of_mem ‹c ∈ cs›
    omega

@[elab_as_elim]
theorem combine_induction {motive : Constraint → Prop} (single : ∀ p, motive (.single p))
    (combine : ∀ usual cs, (∀ c ∈ cs, motive c) → motive (combine usual cs))
    (not : ∀ c, motive c → motive (.not c)) (c : Constraint) : motive c :=
  named_induction (fun c => single (.check c)) (fun name c _ => single (.named name c)) combine not
    c

@[elab_as_elim]
theorem induction {motive : Constraint → Prop} (single : ∀ p, motive (.single p))
    (allOf : ∀ cs, (∀ c ∈ cs, motive c) → motive (.allOf cs))
    (anyOf : ∀ cs, (∀ c ∈ cs, motive c) → motive (.anyOf cs))
    (not : ∀ c, motive c → motive (.not c)) (c : Constraint) : motive c := by
  induction c using combine_induction with
  | single p => exact single p
  | combine usual cs ih =>
    cases usual with
    | true => exact allOf cs ih
    | false => exact anyOf cs ih
  | not c ih => exact not c ih

mutual
def predicates : Constraint → List Predicate
  | .single p => [p]
  | .allOf cs => predicatesAll cs
  | .anyOf cs => predicatesAll cs
  | .not c => c.predicates
def predicatesAll : List Constraint → List Predicate
  | [] => []
  | c :: rest => c.predicates ++ predicatesAll rest
end

theorem predicatesAll_eq_flatMap (cs : List Constraint) :
    predicatesAll cs = cs.flatMap predicates := by
  induction cs with
  | nil => rfl
  | cons c rest ih => rw [predicatesAll, ih, List.flatMap_cons]

theorem predicates_combine (usual : Bool) (cs : List Constraint) :
    (combine usual cs).predicates = cs.flatMap predicates := by
  rw [← predicatesAll_eq_flatMap]
  cases usual <;> rfl

theorem mem_predicatesAll {cs : List Constraint} {p : Predicate} :
    p ∈ predicatesAll cs ↔ ∃ c ∈ cs, p ∈ c.predicates := by
  rw [predicatesAll_eq_flatMap, List.mem_flatMap]

theorem forall_of_predicatesAll {motive : Predicate → Prop} {cs : List Constraint}
    (h : ∀ p ∈ predicatesAll cs, motive p) : ∀ c ∈ cs, ∀ p ∈ c.predicates, motive p :=
  fun c hc p hp => h p (mem_predicatesAll.mpr ⟨c, hc, hp⟩)

variable {node : Node}

theorem evaluate_not {c : Constraint} {holds : Bool} :
    (Constraint.not c).evaluate node = .ok holds ↔ c.evaluate node = .ok !holds := by
  rw [evaluate]
  cases c.evaluate node with
  | ok b => cases b <;> cases holds <;> simp
  | error e => simp

theorem evaluate_not_eq_map (c : Constraint) :
    (Constraint.not c).evaluate node = (c.evaluate node).map fun holds => !holds := by
  rw [evaluate]
  cases c.evaluate node <;> rfl

theorem evaluateAll_eq_firstOther (node : Node) (cs : List Constraint) :
    evaluateAll node cs = firstOther true (cs.map (evaluate node)) := by
  induction cs with
  | nil => rfl
  | cons c rest ih =>
    rw [evaluateAll, ih, List.map_cons]
    rcases c.evaluate node with e | (_ | _) <;> rfl

theorem evaluateAny_eq_firstOther (node : Node) (cs : List Constraint) :
    evaluateAny node cs = firstOther false (cs.map (evaluate node)) := by
  induction cs with
  | nil => rfl
  | cons c rest ih =>
    rw [evaluateAny, ih, List.map_cons]
    rcases c.evaluate node with e | (_ | _) <;> rfl

theorem evaluate_combine (node : Node) (usual : Bool) (cs : List Constraint) :
    (combine usual cs).evaluate node = firstOther usual (cs.map (evaluate node)) := by
  cases usual with
  | true => exact evaluateAll_eq_firstOther node cs
  | false => exact evaluateAny_eq_firstOther node cs

theorem exists_of_evaluateAll_eq_false {cs : List Constraint}
    (h : evaluateAll node cs = .ok false) : ∃ c ∈ cs, c.evaluate node = .ok false := by
  rw [evaluateAll_eq_firstOther] at h
  exact List.mem_map.mp (mem_of_firstOther h (by simp))

theorem evaluateAny_eq_false {cs : List Constraint} :
    evaluateAny node cs = .ok false ↔ ∀ c ∈ cs, c.evaluate node = .ok false := by
  rw [evaluateAny_eq_firstOther, firstOther_eq_usual, List.forall_mem_map]

/-- A combination none of whose parts fails is decided by their values. -/
theorem evaluateAll_of_ok {cs : List Constraint} {value : Constraint → Bool}
    (h : ∀ c ∈ cs, c.evaluate node = .ok (value c)) :
    evaluateAll node cs = .ok (cs.all value) := by
  induction cs with
  | nil => rfl
  | cons c rest ih =>
    obtain ⟨hc, hrest⟩ := List.forall_mem_cons.mp h
    rw [evaluateAll, hc, List.all_cons, ih hrest]
    cases value c <;> rfl

theorem evaluateAny_of_ok {cs : List Constraint} {value : Constraint → Bool}
    (h : ∀ c ∈ cs, c.evaluate node = .ok (value c)) :
    evaluateAny node cs = .ok (cs.any value) := by
  induction cs with
  | nil => rfl
  | cons c rest ih =>
    obtain ⟨hc, hrest⟩ := List.forall_mem_cons.mp h
    rw [evaluateAny, hc, List.any_cons, ih hrest]
    cases value c <;> rfl

end Constraint

end Gleaner
