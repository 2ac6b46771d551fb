import Gleaner.Proofs.Schema.Load
/-!
# Which types are loaded

What can be wrong with a written constraint is wrong at one of its positions: a combination has too
many parts, the predicate of a leaf cannot be made, or its pattern cannot be used (`Offends`).
Loading ends with the error of the first such position in pre-order, and nesting is looked at only
where there is none. What is loaded nests as deep as what is written.
-/
namespace Gleaner

def error? {ε α : Type} : Except ε α → Option ε
  | .ok _ => none
  | .error e => some e

theorem error?_eq_some {ε α : Type} {result : Except ε α} {e : ε} :
    error? result = some e ↔ result = .error e := by
  cases result <;> simp [error?]

namespace ConstraintConfig

/-- The constraints that a constraint is made of directly. -/
def parts : ConstraintConfig → List ConstraintConfig
  | .single _ => []
  | .matching _ => []
  | .allOf cs => cs
  | .anyOf cs => cs
  | .not c => [c]

mutual
/-- The constraints that a constraint is made of, itself first and each before its parts. -/
def preorder : ConstraintConfig → List ConstraintConfig
  | .single p => [.single p]
  | .matching spec => [.matching spec]
  | .allOf cs => .allOf cs :: preorderAll cs
  | .anyOf cs => .anyOf cs :: preorderAll cs
  | .not c => .not c :: preorder c
def preorderAll : List ConstraintConfig → List ConstraintConfig
  | [] => []
  | c :: rest => preorder c ++ preorderAll rest
end

theorem preorder_eq (c : ConstraintConfig) : c.preorder = c :: preorderAll c.parts := by
  cases c with
  | not c => rw [preorder, parts, preorderAll, preorderAll, List.append_nil]
  | _ => rfl

theorem mem_preorderAll {cs : List ConstraintConfig} {b : ConstraintConfig} :
    b ∈ preorderAll cs ↔ ∃ c ∈ cs, b ∈ c.preorder := by
  induction cs with
  | nil => simp [preorderAll]
  | cons c rest ih => simp only [preorderAll, List.mem_append, ih, List.mem_cons, exists_eq_or_imp]

mutual
/-- The nesting depth of a written constraint. A leaf and an empty combination count one level. -/
def depth : ConstraintConfig → Nat
  | .single _ => 1
  | .matching _ => 1
  | .allOf cs => 1 + depthAll cs
  | .anyOf cs => 1 + depthAll cs
  | .not c => 1 + depth c
def depthAll : List ConstraintConfig → Nat
  | [] => 0
  | c :: rest => max (depth c) (depthAll rest)
end

theorem depthAll_eq_foldr (cs : List ConstraintConfig) :
    depthAll cs = (cs.map depth).foldr max 0 := by
  induction cs with
  | nil => rfl
  | cons c rest ih => rw [depthAll, ih, List.map_cons, List.foldr_cons]

end ConstraintConfig

theorem Constraint.depthAll_eq_foldr (cs : List Constraint) :
    depthAll cs = (cs.map depth).foldr max 0 := by
  induction cs with
  | nil => rfl
  | cons c rest ih => rw [depthAll, ih, List.map_cons, List.foldr_cons]

namespace Registry

variable {r : Registry}

theorem depthAll_of_loadAll {configs : List ConstraintConfig} {cs : List Constraint}
    (heach : ∀ config ∈ configs, ∀ c, r.loadConstraint config = .ok c → c.depth = config.depth)
    (h : r.loadAll configs = .ok cs) :
    Constraint.depthAll cs = ConstraintConfig.depthAll configs := by
  have hdepths : cs.map Constraint.depth = configs.map ConstraintConfig.depth :=
    map_of_loadAll heach h
  rw [Constraint.depthAll_eq_foldr, hdepths, ConstraintConfig.depthAll_eq_foldr]

theorem depth_of_loadConstraint {config : ConstraintConfig} {c : Constraint}
    (h : r.loadConstraint config = .ok c) : c.depth = config.depth := by
  induction config using ConstraintConfig.induction generalizing c with
  | single config =>
    obtain ⟨p, _, rfl⟩ := loadConstraint_single h
    rfl
  | matching spec =>
    obtain ⟨m, _, rfl⟩ := loadConstraint_matching h
    rfl
  | allOf configs ih =>
    obtain ⟨_, cs, hcs, rfl⟩ := loadConstraint_allOf h
    have hdepth := depthAll_of_loadAll (fun config hmem c => ih config hmem) hcs
    rw [Constraint.depth, ConstraintConfig.depth, hdepth]
  | anyOf configs ih =>
    obtain ⟨_, cs, hcs, rfl⟩ := loadConstraint_anyOf h
    have hdepth := depthAll_of_loadAll (fun config hmem c => ih config hmem) hcs
    rw [Constraint.depth, ConstraintConfig.depth, hdepth]
  | not config ih =>
    obtain ⟨d, hd, rfl⟩ := loadConstraint_not h
    rw [Constraint.depth, ConstraintConfig.depth, ih hd]

/-- What is wrong with a constraint by itself, whatever its parts are: it has too many of them, or
the type of its predicate is not registered, or the factory for it refuses the configuration, or its
pattern cannot be used. -/
inductive Offends (r : Registry) : ConstraintConfig → SchemaError → Prop
  | wide {c : ConstraintConfig} (many : 256 < c.parts.length) :
      Offends r c (.tooManyConstraints c.parts.length 256)
  | unregistered {p : TypedConfig} (absent : r.get? p.url = none) :
      Offends r (.single p) (.unknownTypeUrl p.url r.urls)
  | refused {p : TypedConfig} {factory : Factory} {e : SchemaError}
      (registered : r.get? p.url = some factory) (refuses : factory p.config = .error e) :
      Offends r (.single p) e
  | unusable {spec : MatchSpec} {e : SchemaError} (pattern : spec.matcher = .error e) :
      Offends r (.matching spec) e

/-- The error of loading a constraint that is no fault of its parts. -/
def defect? (r : Registry) (c : ConstraintConfig) : Option SchemaError :=
  if maxCombined < c.parts.length then some (.tooManyConstraints c.parts.length maxCombined)
  else match c with
    | .single p => error? (r.resolve p)
    | .matching spec => error? spec.matcher
    | _ => none

theorem resolve_eq_error {p : TypedConfig} {e : SchemaError} : r.resolve p = .error e ↔
    (r.get? p.url = none ∧ e = .unknownTypeUrl p.url r.urls) ∨
      ∃ factory, r.get? p.url = some factory ∧ factory p.config = .error e := by
  rw [resolve]
  cases r.get? p.url with
  | none => simp [eq_comm]
  | some factory => simp

theorem defect?_eq_some {c : ConstraintConfig} {e : SchemaError} :
    r.defect? c = some e ↔ Offends r c e := by
  constructor
  · intro h
    unfold defect? at h
    split at h
    · rename_i hmany
      cases h
      exact .wide hmany
    · split at h
      · rcases resolve_eq_error.mp (error?_eq_some.mp h) with
          ⟨habsent, rfl⟩ | ⟨factory, hfactory, he⟩
        · exact .unregistered habsent
        · exact .refused hfactory he
      · exact .unusable (error?_eq_some.mp h)
      · cases h
  · intro h
    cases h with
    | wide many => exact if_pos many
    | unregistered absent => exact error?_eq_some.mpr (resolve_eq_error.mpr (.inl ⟨absent, rfl⟩))
    | refused registered refuses =>
      exact error?_eq_some.mpr (resolve_eq_error.mpr (.inr ⟨_, registered, refuses⟩))
    | unusable pattern => exact error?_eq_some.mpr pattern

theorem defect?_eq_none {c : ConstraintConfig} :
    r.defect? c = none ↔ ∀ e, ¬ Offends r c e := by
  rw [Option.eq_none_iff_forall_ne_some]
  exact forall_congr' fun e => not_congr defect?_eq_some

theorem error?_loadAll {cs : List ConstraintConfig}
    (heach : ∀ c ∈ cs, error? (r.loadConstraint c) = c.preorder.findSome? r.defect?) :
    error? (r.loadAll cs) = (ConstraintConfig.preorderAll cs).findSome? r.defect? := by
  induction cs with
  | nil => rfl
  | cons c rest ih =>
    obtain ⟨hc, hrest⟩ := List.forall_mem_cons.mp heach
    rw [ConstraintConfig.preorderAll, List.findSome?_append, ← hc, ← ih hrest, loadAll]
    cases r.loadConstraint c with
    | error e => rfl
    | ok d => cases r.loadAll rest <;> rfl

/-- Loading a constraint ends with what is wrong with it by itself, or else with what loading its
parts ends with. -/
theorem error?_loadConstraint_eq_or (c : ConstraintConfig) :
    error? (r.loadConstraint c) = (r.defect? c).or (error? (r.loadAll c.parts)) := by
  cases c with
  | single p =>
    rw [loadConstraint]
    show _ = (error? (r.resolve p)).or none
    cases r.resolve p <;> rfl
  | matching spec =>
    rw [loadConstraint]
    show _ = (error? spec.matcher).or none
    cases spec.matcher <;> rfl
  | allOf cs =>
    rw [loadConstraint]
    unfold defect? ConstraintConfig.parts
    by_cases hmany : maxCombined < cs.length
    · simp only [if_pos hmany]
      rfl
    · simp only [if_neg hmany]
      cases r.loadAll cs <;> rfl
  | anyOf cs =>
    rw [loadConstraint]
    unfold defect? ConstraintConfig.parts
    by_cases hmany : maxCombined < cs.length
    · simp only [if_pos hmany]
      rfl
    · simp only [if_neg hmany]
      cases r.loadAll cs <;> rfl
  | not c =>
    rw [loadConstraint]
    show _ = error? (r.loadAll [c])
    rw [loadAll]
    cases r.loadConstraint c <;> rfl

/-- Loading a constraint ends with what is wrong at the first position in pre-order at which
something is. -/
theorem error?_loadConstraint (config : ConstraintConfig) :
    error? (r.loadConstraint config) = config.preorder.findSome? r.defect? := by
  have hparts : ∀ c : ConstraintConfig,
      (∀ part ∈ c.parts, error? (r.loadConstraint part) = part.preorder.findSome? r.defect?) →
        error? (r.loadConstraint c) = c.preorder.findSome? r.defect? := by
    intro c heach
    rw [error?_loadConstraint_eq_or, error?_loadAll heach, c.preorder_eq, List.findSome?_cons]
    cases r.defect? c <;> rfl
  induction config using ConstraintConfig.induction with
  | single p => exact hparts (.single p) nofun
  | matching spec => exact hparts (.matching spec) nofun
  | allOf cs ih => exact hparts (.allOf cs) ih
  | anyOf cs ih => exact hparts (.anyOf cs) ih
  | not c ih => exact hparts (.not c) (List.forall_mem_singleton.mpr ih)

/-- What a registry asks of a written constraint, wherever in it: that a combination has no more
than 256 parts, that the predicate of a leaf is of a registered type whose factory takes its
configuration, and that a pattern can be used. -/
structure Admits (r : Registry) (c : ConstraintConfig) : Prop where
  combinations : ∀ cs, .allOf cs ∈ c.preorder ∨ .anyOf cs ∈ c.preorder → cs.length ≤ 256
  predicates : ∀ p, .single p ∈ c.preorder → ∃ factory predicate,
    r.get? p.url = some factory ∧ factory p.config = .ok predicate
  patterns : ∀ spec, .matching spec ∈ c.preorder → ∃ m, spec.matcher = .ok m

theorem admits_iff {c : ConstraintConfig} :
    Admits r c ↔ ∀ b ∈ c.preorder, ∀ e, ¬ Offends r b e := by
  constructor
  · rintro ⟨hcombinations, hpredicates, hpatterns⟩ b hb e hoffends
    cases hoffends with
    | wide many =>
      cases b with
      | allOf cs => exact absurd many (Nat.not_lt.mpr (hcombinations cs (.inl hb)))
      | anyOf cs => exact absurd many (Nat.not_lt.mpr (hcombinations cs (.inr hb)))
      | _ => simp [ConstraintConfig.parts] at many
    | unregistered absent =>
      obtain ⟨factory, predicate, hfactory, _⟩ := hpredicates _ hb
      cases absent.symm.trans hfactory
    | refused registered refuses =>
      obtain ⟨factory, predicate, hfactory, hmade⟩ := hpredicates _ hb
      cases registered.symm.trans hfactory
      cases refuses.symm.trans hmade
    | unusable pattern =>
      obtain ⟨m, hm⟩ := hpatterns _ hb
      cases pattern.symm.trans hm
  · intro hsound
    refine ⟨fun cs hcs => ?_, fun p hp => ?_, fun spec hspec => ?_⟩
    · rcases hcs with hcs | hcs
      · exact Nat.not_lt.mp fun many => hsound _ hcs _ (.wide many)
      · exact Nat.not_lt.mp fun many => hsound _ hcs _ (.wide many)
    · cases hfactory : r.get? p.url with
      | none => exact absurd (.unregistered hfactory) (hsound _ hp _)
      | some factory =>
        cases hmade : factory p.config with
        | error e => exact absurd (.refused hfactory hmade) (hsound _ hp e)
        | ok predicate => exact ⟨factory, predicate, rfl, hmade⟩
    · cases hm : spec.matcher with
      | error e => exact absurd (.unusable hm) (hsound _ hspec e)
      | ok m => exact ⟨m, rfl⟩

/-- What is wrong with the constraint of a type: what is wrong at the first position in pre-order at
which something is, or else that it nests too deep. -/
inductive Blames (r : Registry) (c : ConstraintConfig) : SchemaError → Prop
  | position {front back : List ConstraintConfig} {b : ConstraintConfig} {e : SchemaError}
      (split : c.preorder = front ++ b :: back) (before : ∀ a ∈ front, ∀ e, ¬ Offends r a e)
      (here : Offends r b e) : Blames r c e
  | nesting (admitted : Admits r c) (deep : 32 < c.depth) :
      Blames r c (.depthExceeded c.depth 32)

theorem loadConstraint_eq_error {config : ConstraintConfig} {e : SchemaError} :
    r.loadConstraint config = .error e ↔ ∃ front b back, config.preorder = front ++ b :: back ∧
      (∀ a ∈ front, ∀ e, ¬ Offends r a e) ∧ Offends r b e := by
  rw [← error?_eq_some, error?_loadConstraint, List.findSome?_eq_some_iff]
  simp only [defect?_eq_some, defect?_eq_none]
  constructor
  · rintro ⟨front, b, back, hsplit, hhere, hbefore⟩
    exact ⟨front, b, back, hsplit, hbefore, hhere⟩
  · rintro ⟨front, b, back, hsplit, hbefore, hhere⟩
    exact ⟨front, b, back, hsplit, hhere, hbefore⟩

theorem loadConstraint_isOk {config : ConstraintConfig} :
    (∃ c, r.loadConstraint config = .ok c) ↔ Admits r config := by
  have hnone : (∃ c, r.loadConstraint config = .ok c) ↔
      error? (r.loadConstraint config) = none := by
    cases r.loadConstraint config <;> simp [error?]
  rw [hnone, error?_loadConstraint, List.findSome?_eq_none_iff, admits_iff]
  simp only [defect?_eq_none]

theorem loadType_eq (config : TypeConfig) :
    r.loadType config = (r.loadConstraint config.constraint).bind fun c =>
      if 32 < config.constraint.depth then .error (.depthExceeded config.constraint.depth 32)
      else .ok ⟨config.name, c⟩ := by
  rw [loadType]
  cases hload : r.loadConstraint config.constraint with
  | error e => rfl
  | ok c =>
    rw [← depth_of_loadConstraint hload]
    by_cases hdeep : 32 < c.depth
    · have hvalidate : NamedType.validate ⟨config.name, c⟩ = .error (.depthExceeded c.depth 32) :=
        if_pos hdeep
      simp only [hvalidate, Except.bind, if_pos hdeep]
    · have hvalidate : NamedType.validate ⟨config.name, c⟩ = .ok () := if_neg hdeep
      simp only [hvalidate, Except.bind, if_neg hdeep]

/-- A type is loaded if its constraint is admitted and nests no deeper than 32 levels. -/
theorem loadType_isOk {config : TypeConfig} : (∃ t, r.loadType config = .ok t) ↔
    Admits r config.constraint ∧ config.constraint.depth ≤ 32 := by
  rw [← loadConstraint_isOk, loadType_eq]
  cases r.loadConstraint config.constraint with
  | error e => simp [Except.bind]
  | ok c =>
    by_cases hdeep : 32 < config.constraint.depth
    · simp [Except.bind, hdeep]
    · simp [Except.bind, hdeep]
      omega

theorem loadType_eq_error {config : TypeConfig} {e : SchemaError} :
    r.loadType config = .error e ↔ Blames r config.constraint e := by
  constructor
  · intro h
    cases hload : r.loadConstraint config.constraint with
    | error other =>
      rw [loadType_eq, hload] at h
      cases h
      obtain ⟨front, b, back, hsplit, hbefore, hhere⟩ := loadConstraint_eq_error.mp hload
      exact .position hsplit hbefore hhere
    | ok c =>
      have hadmitted : Admits r config.constraint := loadConstraint_isOk.mp ⟨c, hload⟩
      rw [loadType_eq, hload] at h
      by_cases hdeep : 32 < config.constraint.depth
      · rw [Except.bind, if_pos hdeep] at h
        cases h
        exact .nesting hadmitted hdeep
      · rw [Except.bind, if_neg hdeep] at h
        cases h
  · intro h
    rw [loadType_eq]
    cases h with
    | position split before here =>
      rw [loadConstraint_eq_error.mpr ⟨_, _, _, split, before, here⟩]
      rfl
    | nesting admitted deep =>
      obtain ⟨c, hload⟩ := loadConstraint_isOk.mpr admitted
      rw [hload]
      exact if_pos deep

theorem matcher_ne_depthExceeded (spec : MatchSpec) (depth max : Nat) :
    spec.matcher ≠ .error (.depthExceeded depth max) := by
  rw [MatchSpec.matcher_eq]
  exact Matcher.load_ne_depthExceeded _ _ _ depth max

/-- The error for a depth is that of the nesting, where nothing else is wrong, unless a factory
reports such an error of its own. -/
theorem blames_depthExceeded {c : ConstraintConfig} {depth max : Nat}
    (h : Blames r c (.depthExceeded depth max)) :
    (Admits r c ∧ 32 < c.depth ∧ depth = c.depth ∧ max = 32) ∨
      ∃ p factory, .single p ∈ c.preorder ∧ r.get? p.url = some factory ∧
        factory p.config = .error (.depthExceeded depth max) := by
  cases h with
  | nesting admitted deep => exact .inl ⟨admitted, deep, rfl, rfl⟩
  | position split before here =>
    cases here with
    | refused registered refuses =>
      exact .inr ⟨_, _, by rw [split]; simp, registered, refuses⟩
    | unusable pattern => exact absurd pattern (matcher_ne_depthExceeded _ depth max)

/-- Whether all types of a registry are types that come with the library, or tables of verdicts. -/
def OfLibrary (r : Registry) : Prop :=
  ∀ url factory, r.get? url = some factory → factory ∈ Factory.library

theorem ofLibrary_registerTest : (RegistryBuilder.registerTest {}).build.OfLibrary := by
  intro url factory h
  rcases RegistryBuilder.get?_registerTest h with
    ⟨_, rfl⟩ | ⟨_, rfl⟩ | ⟨_, rfl⟩ | ⟨_, rfl⟩ | ⟨_, rfl⟩ <;> simp [Factory.library]

theorem blames_depthExceeded_of_library (hlibrary : r.OfLibrary) {c : ConstraintConfig}
    {depth max : Nat} : Blames r c (.depthExceeded depth max) ↔
      Admits r c ∧ 32 < c.depth ∧ depth = c.depth ∧ max = 32 := by
  constructor
  · intro h
    rcases blames_depthExceeded h with hnesting | ⟨p, factory, _, hregistered, hrefuses⟩
    · exact hnesting
    · have hmember := hlibrary _ _ hregistered
      exact absurd hrefuses (Factory.library_ne_depthExceeded hmember _ depth max)
  · rintro ⟨hadmitted, hdeep, rfl, rfl⟩
    exact .nesting hadmitted hdeep

/-- A type is loaded exactly if its constraint is admitted, position by position, and nests no
deeper than 32 levels. Otherwise the first position in pre-order with something wrong decides the
error, and only where there is none the nesting does, unless a factory reports a depth, which those
of the library never do. A constraint that is loaded nests as deep as it is written, and a type has
the written name and the constraint that is loaded for it. -/
theorem loadType_decides (r : Registry) (config : TypeConfig) :
    ((∃ t, r.loadType config = .ok t) ↔
      Admits r config.constraint ∧ config.constraint.depth ≤ 32) ∧
    (∀ e, r.loadType config = .error e ↔ Blames r config.constraint e) ∧
    (∀ depth max, r.loadType config = .error (.depthExceeded depth max) →
      (Admits r config.constraint ∧ 32 < config.constraint.depth ∧
        depth = config.constraint.depth ∧ max = 32) ∨
      ∃ p factory, .single p ∈ config.constraint.preorder ∧ r.get? p.url = some factory ∧
        factory p.config = .error (.depthExceeded depth max)) ∧
    (r.OfLibrary → ∀ depth max, r.loadType config = .error (.depthExceeded depth max) ↔
      Admits r config.constraint ∧ 32 < config.constraint.depth ∧
        depth = config.constraint.depth ∧ max = 32) ∧
    (∀ c, r.loadConstraint config.constraint = .ok c → c.depth = config.constraint.depth) ∧
    (∀ t, r.loadType config = .ok t →
      t.name = config.name ∧ r.loadConstraint config.constraint = .ok t.constraint) := by
  refine ⟨loadType_isOk, fun e => loadType_eq_error, ?_, ?_, ?_, ?_⟩
  · intro depth max h
    exact blames_depthExceeded (loadType_eq_error.mp h)
  · intro hlibrary depth max
    exact loadType_eq_error.trans (blames_depthExceeded_of_library hlibrary)
  · intro c hload
    exact depth_of_loadConstraint hload
  · intro t h
    exact loadType_eq_ok h

end Registry

end Gleaner
