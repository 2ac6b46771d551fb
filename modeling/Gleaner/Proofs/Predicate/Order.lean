import Gleaner.Proofs.Predicate.Trace
/-!
# The order of parts

Evaluation stops at the first part that decides a combination, so reordering parts may bring a
failing predicate to light or hide it. It never turns one verdict into the other: a verdict that
evaluation finds in some order can be read off the tree without any order (`Settles`), and no
constraint can be read both ways.
-/
namespace Gleaner.Constraint

variable {node : Node}

/-- The second constraint is the first one with the parts of combinations permuted, at any depth. -/
inductive Reordered : Constraint → Constraint → Prop
  | refl (c : Constraint) : Reordered c c
  | trans {c d e : Constraint} (first : Reordered c d) (second : Reordered d e) : Reordered c e
  | parts (usual : Bool) {cs ds : List Constraint} (order : cs.Perm ds) :
      Reordered (combine usual cs) (combine usual ds)
  | inside (usual : Bool) (front back : List Constraint) {c d : Constraint}
      (part : Reordered c d) :
      Reordered (combine usual (front ++ c :: back)) (combine usual (front ++ d :: back))
  | not {c d : Constraint} (part : Reordered c d) : Reordered (.not c) (.not d)

/-- A verdict that follows from those of predicates without regard to order: all parts of a
combination have the verdict that is usual for it, or some part has the other one. -/
inductive Settles (node : Node) : Constraint → Bool → Prop
  | single {p : Predicate} {holds : Bool} (answer : p.test node = .ok holds) :
      Settles node (.single p) holds
  | allHold {cs : List Constraint} (parts : ∀ c ∈ cs, Settles node c true) :
      Settles node (.allOf cs) true
  | someFails {cs : List Constraint} {c : Constraint} (member : c ∈ cs)
      (part : Settles node c false) : Settles node (.allOf cs) false
  | noneHolds {cs : List Constraint} (parts : ∀ c ∈ cs, Settles node c false) :
      Settles node (.anyOf cs) false
  | someHolds {cs : List Constraint} {c : Constraint} (member : c ∈ cs)
      (part : Settles node c true) : Settles node (.anyOf cs) true
  | not {c : Constraint} {holds : Bool} (part : Settles node c !holds) :
      Settles node (.not c) holds

theorem settles_combine {usual holds : Bool} {cs : List Constraint} :
    Settles node (combine usual cs) holds ↔
      (holds = usual ∧ ∀ c ∈ cs, Settles node c holds) ∨
      (holds ≠ usual ∧ ∃ c ∈ cs, Settles node c holds) := by
  constructor
  · intro h
    cases usual with
    | true =>
      cases h with
      | allHold parts => exact .inl ⟨rfl, parts⟩
      | someFails member part => exact .inr ⟨Bool.false_ne_true, _, member, part⟩
    | false =>
      cases h with
      | noneHolds parts => exact .inl ⟨rfl, parts⟩
      | someHolds member part => exact .inr ⟨Bool.false_ne_true.symm, _, member, part⟩
  · rintro (⟨rfl, parts⟩ | ⟨hother, c, member, part⟩)
    · cases holds with
      | true => exact .allHold parts
      | false => exact .noneHolds parts
    · obtain rfl : usual = !holds := Bool.eq_not.mpr hother.symm
      cases holds with
      | true => exact .someHolds member part
      | false => exact .someFails member part

/-- A verdict that evaluation finds follows without regard to order. -/
theorem settles_of_evaluate {c : Constraint} {holds : Bool} (h : c.evaluate node = .ok holds) :
    Settles node c holds := by
  induction c using combine_induction generalizing holds with
  | single p => exact .single h
  | combine usual cs ih =>
    rw [evaluate_combine] at h
    rw [settles_combine]
    by_cases hholds : holds = usual
    · subst hholds
      have hparts : ∀ c ∈ cs, c.evaluate node = .ok holds :=
        List.forall_mem_map.mp (firstOther_eq_usual.mp h)
      exact .inl ⟨rfl, fun c hc => ih c hc (hparts c hc)⟩
    · have hne : Except.ok (ε := Failure) holds ≠ .ok usual := fun heq => hholds (Except.ok.inj heq)
      obtain ⟨c, hc, hpart⟩ := List.mem_map.mp (mem_of_firstOther h hne)
      exact .inr ⟨hholds, c, hc, ih c hc hpart⟩
  | not c ih => exact .not (ih (evaluate_not.mp h))

theorem Settles.unique {c : Constraint} {a b : Bool} (ha : Settles node c a)
    (hb : Settles node c b) : a = b := by
  induction c using combine_induction generalizing a b with
  | single p =>
    cases ha with
    | single ha =>
      cases hb with
      | single hb => exact Except.ok.inj (ha.symm.trans hb)
  | combine usual cs ih =>
    rw [settles_combine] at ha hb
    rcases ha with ⟨haUsual, haParts⟩ | ⟨haOther, c, hc, haPart⟩
    · rcases hb with ⟨hbUsual, _⟩ | ⟨_, c, hc, hbPart⟩
      · exact haUsual.trans hbUsual.symm
      · exact ih c hc (haParts c hc) hbPart
    · rcases hb with ⟨_, hbParts⟩ | ⟨hbOther, _⟩
      · exact ih c hc haPart (hbParts c hc)
      · exact (Bool.eq_not.mpr haOther).trans (Bool.eq_not.mpr hbOther).symm
  | not c ih =>
    cases ha with
    | not ha =>
      cases hb with
      | not hb => exact Bool.not_inj (ih ha hb)

/-- Reordering changes nothing of what follows without regard to order. -/
theorem Settles.of_reordered {c d : Constraint} (h : Reordered c d) {holds : Bool}
    (hc : Settles node c holds) : Settles node d holds := by
  induction h generalizing holds with
  | refl c => exact hc
  | trans _ _ ih₁ ih₂ => exact ih₂ (ih₁ hc)
  | parts usual order =>
    rw [settles_combine] at hc ⊢
    simpa only [order.mem_iff] using hc
  | inside usual front back part ih =>
    rw [settles_combine] at hc ⊢
    simp only [List.mem_append, List.mem_cons] at hc ⊢
    rcases hc with ⟨husual, hparts⟩ | ⟨hother, e, hmem, hpart⟩
    · refine .inl ⟨husual, ?_⟩
      rintro e (he | rfl | he)
      · exact hparts e (.inl he)
      · exact ih (hparts _ (.inr (.inl rfl)))
      · exact hparts e (.inr (.inr he))
    · refine .inr ⟨hother, ?_⟩
      rcases hmem with he | rfl | he
      · exact ⟨e, .inl he, hpart⟩
      · exact ⟨_, .inr (.inl rfl), ih hpart⟩
      · exact ⟨e, .inr (.inr he), hpart⟩
  | not part ih =>
    cases hc with
    | not hc => exact .not (ih hc)

theorem Reordered.predicates_perm {c d : Constraint} (h : Reordered c d) :
    c.predicates.Perm d.predicates := by
  induction h with
  | refl c => exact .refl _
  | trans _ _ ih₁ ih₂ => exact ih₁.trans ih₂
  | parts usual order =>
    rw [predicates_combine, predicates_combine]
    exact order.flatMap_right _
  | inside usual front back part ih =>
    rw [predicates_combine, predicates_combine, List.flatMap_append, List.flatMap_append,
      List.flatMap_cons, List.flatMap_cons]
    exact (ih.append_right _).append_left _
  | not part ih => exact ih

/-- Reordering never turns a verdict into the other one, and where no predicate fails it changes no
verdict at all. -/
theorem evaluate_of_reordered {c d : Constraint} (h : Reordered c d) (node : Node) :
    (∀ a b, c.evaluate node = .ok a → d.evaluate node = .ok b → a = b) ∧
    ((∀ p ∈ c.predicates, p.failure? node = none) →
      ∃ holds, c.evaluate node = .ok holds ∧ d.evaluate node = .ok holds) := by
  have hagree : ∀ a b, c.evaluate node = .ok a → d.evaluate node = .ok b → a = b := by
    intro a b hc hd
    exact (Settles.of_reordered h (settles_of_evaluate hc)).unique (settles_of_evaluate hd)
  refine ⟨hagree, fun hclean => ?_⟩
  have hc : c.evaluate node = .ok (c.trace node).matched := evaluate_eq_matched c hclean
  have hd : d.evaluate node = .ok (d.trace node).matched :=
    evaluate_eq_matched d fun p hp => hclean p (h.predicates_perm.mem_iff.mpr hp)
  exact ⟨_, hc, hagree _ _ hc hd ▸ hd⟩

/-- Parts swapped at two levels, below a negation too: both orders settle a text on which one of the
predicates fails, and one on which none does. -/
theorem evaluate_of_reordered_nested :
    let accepts : Check := .ofTextFunction "accepts" fun _ => true
    let rejects : Check := .ofTextFunction "rejects" fun _ => false
    let picky : Check := .ofFunction "picky" fun n =>
      if n.text? = some "x" then .error ⟨"boom"⟩ else .ok true
    let c : Constraint :=
      .anyOf [.not (.allOf [.ofCheck rejects, .ofCheck picky]), .ofCheck accepts]
    let d : Constraint :=
      .anyOf [.ofCheck accepts, .not (.allOf [.ofCheck picky, .ofCheck rejects])]
    Reordered c d ∧
    (c.evaluate (.text "x") = .ok true ∧ d.evaluate (.text "x") = .ok true ∧
      ∀ a b, c.evaluate (.text "x") = .ok a → d.evaluate (.text "x") = .ok b → a = b) ∧
    (∀ p ∈ c.predicates, p.failure? (.text "y") = none) ∧
      ∃ holds, c.evaluate (.text "y") = .ok holds ∧ d.evaluate (.text "y") = .ok holds := by
  intro accepts rejects picky c d
  have hinner : Reordered (.not (.allOf [.ofCheck rejects, .ofCheck picky]))
      (.not (.allOf [.ofCheck picky, .ofCheck rejects])) :=
    .not (.parts true (.swap ..))
  have hreordered : Reordered c d :=
    .trans (.inside false [] [.ofCheck accepts] hinner) (.parts false (.swap ..))
  have hclean : ∀ p ∈ c.predicates, p.failure? (.text "y") = none := by
    intro p hp
    have hcases : p = .check rejects ∨ p = .check picky ∨ p = .check accepts := by
      simpa [c, Constraint.ofCheck, predicates, predicatesAll] using hp
    rcases hcases with rfl | rfl | rfl <;> rfl
  exact ⟨hreordered, ⟨rfl, rfl, (evaluate_of_reordered hreordered (.text "x")).1⟩, hclean,
    (evaluate_of_reordered hreordered (.text "y")).2 hclean⟩

end Gleaner.Constraint
