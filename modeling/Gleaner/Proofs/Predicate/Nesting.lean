import Gleaner.Predicate.Validation
import Gleaner.Proofs.Predicate.Evaluation
/-!
# How deep evaluation goes

Evaluating a constraint evaluates its parts one level deeper, as long as no part decides it; the
levels are the room that evaluation needs if each level takes some (`Constraint.evaluateWithin_eq`).
The depth that a named type is validated by bounds the levels of its own constraint. There a
predicate is a leaf whatever it is, so the constraint of a named type that is used as a predicate
comes on top. A single constraint around a named type always validates, hence so does a pile of
these of any height; where all named types of a pile validate, the height bounds the levels.
-/
namespace Gleaner

mutual
/-- How many constraints deep the test of a predicate goes: as deep as the constraint of a named
type, if these are looked through, and else none. -/
def Predicate.levels (through : Bool) (node : Node) : Predicate → Nat
  | .check _ => 0
  | .named _ c => if through then c.levels through node else 0
/-- How many constraints deep evaluation goes, the constraint itself included. -/
def Constraint.levels (through : Bool) (node : Node) : Constraint → Nat
  | .single p => 1 + p.levels through node
  | .allOf cs => 1 + Constraint.levelsParts through node true cs
  | .anyOf cs => 1 + Constraint.levelsParts through node false cs
  | .not c => 1 + c.levels through node
/-- How many constraints deep the evaluation of parts goes, which stops at the first verdict that is
not the usual one. -/
def Constraint.levelsParts (through : Bool) (node : Node) (usual : Bool) : List Constraint → Nat
  | [] => 0
  | c :: rest => match c.evaluate node with
    | .ok holds =>
      if holds = usual then
        max (c.levels through node) (Constraint.levelsParts through node usual rest)
      else c.levels through node
    | .error _ => c.levels through node
end

/-- What comes of going one constraint deeper, if there is room for one. -/
def stepIn {α : Type} (inner : Nat → Option α) : Nat → Option α
  | 0 => none
  | room + 1 => inner room

theorem stepIn_eq {α : Type} {inner : Nat → Option α} {levels : Nat} {a : α}
    (h : ∀ room, inner room = if levels ≤ room then some a else none) (room : Nat) :
    stepIn inner room = if 1 + levels ≤ room then some a else none := by
  cases room with
  | zero => rw [stepIn, if_neg (by omega)]
  | succ room =>
    rw [stepIn, h, Nat.add_comm]
    simp only [Nat.add_le_add_iff_right]

mutual
/-- The test of a predicate with room for so many constraints inside each other, and no answer if
they do not fit. A named type takes no room if these are not looked through. -/
def Predicate.testWithin (through : Bool) (node : Node) (room : Nat) :
    Predicate → Option (Except Failure Bool)
  | .check c => some (c.test node)
  | .named _ c => if through then c.evaluateWithin through node room else some (c.evaluate node)
/-- Evaluation with room for so many constraints inside each other, the constraint itself included.
-/
def Constraint.evaluateWithin (through : Bool) (node : Node) (room : Nat) :
    Constraint → Option (Except Failure Bool)
  | .single p => stepIn (fun room => p.testWithin through node room) room
  | .allOf cs => stepIn (fun room => Constraint.partsWithin through node true room cs) room
  | .anyOf cs => stepIn (fun room => Constraint.partsWithin through node false room cs) room
  | .not c => stepIn
    (fun room => (c.evaluateWithin through node room).map (·.map fun holds => !holds)) room
/-- Evaluation of parts up to the first verdict that is not the usual one. -/
def Constraint.partsWithin (through : Bool) (node : Node) (usual : Bool) (room : Nat) :
    List Constraint → Option (Except Failure Bool)
  | [] => some (.ok usual)
  | c :: rest => (c.evaluateWithin through node room).bind fun
    | .ok holds =>
      if holds = usual then Constraint.partsWithin through node usual room rest
      else some (.ok holds)
    | .error e => some (.error e)
end

namespace Constraint

variable {through : Bool} {node : Node}

/-! ### Levels and depth -/

theorem levels_combine (usual : Bool) (cs : List Constraint) :
    (combine usual cs).levels through node = 1 + levelsParts through node usual cs := by
  cases usual <;> rw [combine, levels]

theorem depth_combine (usual : Bool) (cs : List Constraint) :
    (combine usual cs).depth = 1 + depthAll cs := by
  cases usual <;> rw [combine, depth]

theorem levelsParts_cons_le (usual : Bool) (c : Constraint) (rest : List Constraint) :
    levelsParts through node usual (c :: rest) ≤
      max (c.levels through node) (levelsParts through node usual rest) := by
  rw [levelsParts]
  split
  · split <;> omega
  · omega

theorem levelsParts_le {usual : Bool} {below : Nat} {cs : List Constraint}
    (h : ∀ c ∈ cs, c.levels through node ≤ c.depth + below) :
    levelsParts through node usual cs ≤ depthAll cs + below := by
  induction cs with
  | nil => simp [levelsParts]
  | cons c rest ih =>
    obtain ⟨hc, hrest⟩ := List.forall_mem_cons.mp h
    have hcons : levelsParts through node usual (c :: rest) ≤
        max (c.levels through node) (levelsParts through node usual rest) :=
      levelsParts_cons_le usual c rest
    have hparts : levelsParts through node usual rest ≤ depthAll rest + below := ih hrest
    rw [depthAll]
    omega

theorem levels_le (c : Constraint) {below : Nat}
    (h : ∀ p ∈ c.predicates, p.levels through node ≤ below) :
    c.levels through node ≤ c.depth + below := by
  induction c using combine_induction with
  | single p =>
    have hp : p.levels through node ≤ below := h p (List.mem_singleton_self p)
    rw [levels, depth]
    omega
  | combine usual cs ih =>
    rw [predicates_combine] at h
    have hparts : ∀ c ∈ cs, c.levels through node ≤ c.depth + below :=
      fun c hc => ih c hc fun p hp => h p (List.mem_flatMap.mpr ⟨c, hc, hp⟩)
    have hlevels : levelsParts through node usual cs ≤ depthAll cs + below := levelsParts_le hparts
    rw [levels_combine, depth_combine]
    omega
  | not c ih =>
    have hinner : c.levels through node ≤ c.depth + below := ih h
    rw [levels, depth]
    omega

/-! ### Levels and room -/

theorem evaluateWithin_combine (usual : Bool) (cs : List Constraint) (room : Nat) :
    (combine usual cs).evaluateWithin through node room =
      stepIn (fun room => partsWithin through node usual room cs) room := by
  cases usual <;> rw [combine, evaluateWithin]

theorem partsWithin_eq {usual : Bool} {room : Nat} {cs : List Constraint}
    (h : ∀ c ∈ cs, c.evaluateWithin through node room =
      if c.levels through node ≤ room then some (c.evaluate node) else none) :
    partsWithin through node usual room cs =
      if levelsParts through node usual cs ≤ room then
        some (firstOther usual (cs.map (evaluate node))) else none := by
  induction cs with
  | nil =>
    rw [partsWithin, levelsParts, if_pos (Nat.zero_le room)]
    rfl
  | cons c rest ih =>
    obtain ⟨hc, hrest⟩ := List.forall_mem_cons.mp h
    rw [partsWithin, levelsParts, hc, ih hrest, List.map_cons]
    by_cases husual : c.evaluate node = .ok usual
    · simp only [husual, if_true, firstOther_cons_usual, Nat.max_le]
      by_cases hroom : c.levels through node ≤ room <;> simp [hroom]
    · rw [firstOther_cons_other husual]
      cases hverdict : c.evaluate node with
      | ok holds =>
        have hother : holds ≠ usual := fun heq => husual (heq ▸ hverdict)
        by_cases hroom : c.levels through node ≤ room <;> simp [hroom, hother]
      | error e =>
        by_cases hroom : c.levels through node ≤ room <;> simp [hroom]

/-- Evaluation has enough room exactly if its levels fit, and then it is as without a limit. -/
theorem evaluateWithin_eq (c : Constraint) (room : Nat) :
    c.evaluateWithin through node room =
      if c.levels through node ≤ room then some (c.evaluate node) else none := by
  induction c using named_induction generalizing room with
  | check c =>
    rw [evaluateWithin, levels]
    refine stepIn_eq (fun room => ?_) room
    rw [Predicate.testWithin, Predicate.levels, if_pos (Nat.zero_le room)]
    rfl
  | named name c ih =>
    rw [evaluateWithin, levels]
    refine stepIn_eq (fun room => ?_) room
    rw [Predicate.testWithin, Predicate.levels]
    cases through with
    | true => exact ih room
    | false => exact (if_pos (Nat.zero_le room)).symm
  | combine usual cs ih =>
    rw [evaluateWithin_combine, levels_combine, evaluate_combine]
    exact stepIn_eq (fun room => partsWithin_eq fun c hc => ih c hc room) room
  | not c ih =>
    rw [evaluateWithin, levels, evaluate_not_eq_map]
    refine stepIn_eq (fun room => ?_) room
    rw [ih room]
    split <;> rfl

/-- A check inside so many named types, each around the next. -/
def wrapped : Nat → Constraint
  | 0 => .ofCheck .acceptAll
  | n + 1 => .single (.named "wrapped" (wrapped n))

theorem depth_wrapped (n : Nat) : (wrapped n).depth = 1 := by
  cases n <;> rfl

theorem levels_wrapped (n : Nat) : (wrapped n).levels true node = n + 1 := by
  induction n with
  | zero => rfl
  | succ n ih =>
    rw [wrapped, levels, Predicate.levels, if_pos rfl, ih]
    omega

end Constraint

theorem Predicate.levels_false (node : Node) (p : Predicate) : p.levels false node = 0 := by
  cases p <;> simp [levels]

namespace NamedType

def levels (through : Bool) (node : Node) (t : NamedType) : Nat := t.constraint.levels through node

def testWithin (through : Bool) (node : Node) (room : Nat) (t : NamedType) :
    Option (Except Failure Bool) :=
  t.constraint.evaluateWithin through node room

theorem testWithin_eq (t : NamedType) {through : Bool} {node : Node} (room : Nat) :
    t.testWithin through node room =
      if t.levels through node ≤ room then some (t.test node) else none :=
  t.constraint.evaluateWithin_eq room

theorem validate_eq_ok {t : NamedType} :
    t.validate = .ok () ↔ t.constraint.depth ≤ maxConstraintDepth := by
  unfold validate
  split
  · simp only [reduceCtorEq, false_iff]
    omega
  · simp only [true_iff]
    omega

theorem levels_le_add {t : NamedType} (h : t.validate = .ok ()) {through : Bool} {node : Node}
    {below : Nat} (hbelow : ∀ p ∈ t.constraint.predicates, p.levels through node ≤ below) :
    t.levels through node ≤ maxConstraintDepth + below := by
  have hdepth : t.constraint.depth ≤ maxConstraintDepth := validate_eq_ok.mp h
  have hlevels : t.constraint.levels through node ≤ t.constraint.depth + below :=
    t.constraint.levels_le hbelow
  rw [levels]
  omega

/-- The named type validates and so do the named types among its predicates, theirs and so on, which
are piled no higher than the given number, the type itself included. -/
inductive Validated : Nat → NamedType → Prop
  | intro {height : Nat} {t : NamedType} (valid : t.validate = .ok ())
      (inner : ∀ name c, .named name c ∈ t.constraint.predicates → Validated height ⟨name, c⟩) :
      Validated (height + 1) t

theorem levels_of_validated {height : Nat} {t : NamedType} (h : Validated height t) (node : Node) :
    t.levels true node ≤ maxConstraintDepth * height := by
  induction h with
  | @intro height t valid _ ih =>
    have hbelow : ∀ p ∈ t.constraint.predicates,
        p.levels true node ≤ maxConstraintDepth * height := by
      intro p hp
      cases p with
      | check c => exact Nat.zero_le _
      | named name c => exact ih name c hp
    have hlevels : t.levels true node ≤ maxConstraintDepth + maxConstraintDepth * height :=
      levels_le_add valid hbelow
    rw [Nat.mul_succ]
    omega

/-- The levels of a test are the room that it needs. A named type that validates is tested no deeper
than allowed, as far as its own constraint goes. What its predicates go deeper comes on top, and so
where the named types among them validate too, each that stands inside another adds as much at
most. -/
theorem levels_of_validate {t : NamedType} (h : t.validate = .ok ()) (node : Node) :
    (∀ through room, t.testWithin through node room =
      if t.levels through node ≤ room then some (t.test node) else none) ∧
    t.levels false node ≤ maxConstraintDepth ∧
    (∀ below, (∀ p ∈ t.constraint.predicates, p.levels true node ≤ below) →
      t.levels true node ≤ maxConstraintDepth + below) ∧
    ∀ height, Validated height t → t.levels true node ≤ maxConstraintDepth * height := by
  have hown : t.levels false node ≤ maxConstraintDepth + 0 :=
    levels_le_add h fun p _ => Nat.le_of_eq (p.levels_false node)
  exact ⟨fun _ room => t.testWithin_eq room, hown, fun _ hbelow => levels_le_add h hbelow,
    fun _ hv => levels_of_validated hv node⟩

/-- A named type inside another one: both validate, and together they go four levels deep. -/
theorem levels_of_validate_inner :
    let inner : Constraint := .allOf [.ofCheck .acceptAll]
    let t : NamedType := ⟨"outer", .not (.single (.named "inner" inner))⟩
    t.validate = .ok () ∧ Validated 2 t ∧ t.levels true (.text "x") = 4 ∧
    t.testWithin true (.text "x") 4 = some (t.test (.text "x")) ∧
      t.levels false (.text "x") ≤ maxConstraintDepth ∧
      t.levels true (.text "x") ≤ maxConstraintDepth + 2 ∧
      t.levels true (.text "x") ≤ maxConstraintDepth * 2 := by
  intro inner t
  have hvalid : t.validate = .ok () := rfl
  have hinner : Validated 1 ⟨"inner", inner⟩ := by
    refine .intro rfl fun name c hc => ?_
    simp [inner, Constraint.predicates, Constraint.predicatesAll, Constraint.ofCheck] at hc
  have hvalidated : Validated 2 t := by
    refine .intro hvalid fun name c hc => ?_
    obtain ⟨rfl, rfl⟩ : name = "inner" ∧ c = inner := by
      simpa [t, Constraint.predicates] using hc
    exact hinner
  have hbelow : ∀ p ∈ t.constraint.predicates, p.levels true (.text "x") ≤ 2 := by
    intro p hp
    obtain rfl : p = .named "inner" inner := by
      simpa [t, Constraint.predicates] using hp
    decide
  obtain ⟨hroom, hown, hadd, hpile⟩ := levels_of_validate hvalid (.text "x")
  exact ⟨hvalid, hvalidated, rfl, hroom true 4, hown, hadd 2 hbelow, hpile 2 hvalidated⟩

/-- A pile of single constraints around named types validates, goes deeper than allowed and is not
tested in the room that is allowed. -/
theorem levels_of_validate_exceeded :
    let t : NamedType := ⟨"t", .wrapped 32⟩
    t.validate = .ok () ∧ maxConstraintDepth < t.levels true (.text "x") ∧
      t.testWithin true (.text "x") maxConstraintDepth = none := by
  intro t
  have hdepth : t.constraint.depth ≤ maxConstraintDepth := by
    rw [Constraint.depth_wrapped, maxConstraintDepth]
    omega
  have hlevels : maxConstraintDepth < t.levels true (.text "x") := by
    rw [levels, Constraint.levels_wrapped, maxConstraintDepth]
    omega
  refine ⟨validate_eq_ok.mpr hdepth, hlevels, ?_⟩
  rw [testWithin_eq, if_neg (Nat.not_le.mpr hlevels)]

end NamedType

end Gleaner
