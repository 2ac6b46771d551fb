import Gleaner.Proofs.Predicate.Evaluation
import Gleaner.Proofs.Schema.Leaf
import Gleaner.Proofs.Search.Find
/-!
# What a loaded schema finds

A constraint as written has a verdict of its own, which is put together from those of its leaves. A
registry that makes a predicate with the declared verdict for every leaf loads constraints that are
evaluated to the declared verdict. So a finder of a loaded schema answers the query that is written
in the configuration.
-/
namespace Gleaner

namespace ConstraintConfig

@[elab_as_elim]
theorem induction {motive : ConstraintConfig → Prop} (single : ∀ p, motive (.single p))
    (matching : ∀ spec, motive (.matching spec))
    (allOf : ∀ cs, (∀ c ∈ cs, motive c) → motive (.allOf cs))
    (anyOf : ∀ cs, (∀ c ∈ cs, motive c) → motive (.anyOf cs))
    (not : ∀ c, motive c → motive (.not c)) (c : ConstraintConfig) : motive c := by
  match c with
  | .single p => exact single p
  | .matching spec => exact matching spec
  | .allOf cs => exact allOf cs fun c _ => induction single matching allOf anyOf not c
  | .anyOf cs => exact anyOf cs fun c _ => induction single matching allOf anyOf not c
  | .not c => exact not c (induction single matching allOf anyOf not c)
termination_by sizeOf c
decreasing_by
  all_goals simp_wf
  · have := List.sizeOf_lt_of_mem ‹c ∈ cs›
    omega
  · have := List.sizeOf_lt_of_mem ‹c ∈ cs›
    omega

section

variable (single : TypedConfig → Except Failure Bool) (matching : MatchSpec → Except Failure Bool)

mutual
/-- The verdict that a constraint declares, given the verdicts of leaves. -/
def verdictBy : ConstraintConfig → Except Failure Bool
  | .single p => single p
  | .matching spec => matching spec
  | .allOf cs => firstOther true (verdictsBy cs)
  | .anyOf cs => firstOther false (verdictsBy cs)
  | .not c => (verdictBy c).map fun holds => !holds
def verdictsBy : List ConstraintConfig → List (Except Failure Bool)
  | [] => []
  | c :: rest => verdictBy c :: verdictsBy rest
end

theorem verdictsBy_eq_map (cs : List ConstraintConfig) :
    verdictsBy single matching cs = cs.map (verdictBy single matching) := by
  induction cs with
  | nil => rfl
  | cons c rest ih => rw [verdictsBy, ih, List.map_cons]

end

/-- The verdict that a constraint declares on a text. -/
def verdict (c : ConstraintConfig) (text : String) : Except Failure Bool :=
  c.verdictBy (·.verdict text) (·.verdict text)

end ConstraintConfig

namespace Registry

variable {r : Registry}

theorem loadAll_cons_eq_ok {config : ConstraintConfig} {rest : List ConstraintConfig}
    {cs : List Constraint} (h : r.loadAll (config :: rest) = .ok cs) :
    ∃ c ds, r.loadConstraint config = .ok c ∧ r.loadAll rest = .ok ds ∧ cs = c :: ds := by
  rw [loadAll] at h
  split at h
  · cases h
  · rename_i c hc
    split at h
    · cases h
    · rename_i ds hds
      exact ⟨c, ds, hc, hds, (Except.ok.inj h).symm⟩

theorem loadConstraint_single {config : TypedConfig} {c : Constraint}
    (h : r.loadConstraint (.single config) = .ok c) :
    ∃ p, r.resolve config = .ok p ∧ c = .single p := by
  rw [loadConstraint] at h
  split at h
  · rename_i p hp
    exact ⟨p, hp, (Except.ok.inj h).symm⟩
  · cases h

theorem loadConstraint_single_of_get? {url : String} {factory : Factory}
    (h : r.get? url = some factory) (config : Json) :
    r.loadConstraint (.single ⟨url, config⟩) = (factory config).map .single := by
  rw [loadConstraint, resolve, h]
  dsimp only
  cases factory config <;> rfl

theorem loadConstraint_single_of_unknown {url : String} (h : r.get? url = none) (config : Json) :
    r.loadConstraint (.single ⟨url, config⟩) = .error (.unknownTypeUrl url r.urls) := by
  rw [loadConstraint, resolve, h]

theorem loadConstraint_matching {spec : MatchSpec} {c : Constraint}
    (h : r.loadConstraint (.matching spec) = .ok c) :
    ∃ m, spec.matcher = .ok m ∧ c = .ofCheck m.check := by
  rw [loadConstraint] at h
  split at h
  · rename_i m hm
    exact ⟨m, hm, (Except.ok.inj h).symm⟩
  · cases h

theorem loadConstraint_allOf {configs : List ConstraintConfig} {c : Constraint}
    (h : r.loadConstraint (.allOf configs) = .ok c) :
    configs.length ≤ maxCombined ∧ ∃ cs, r.loadAll configs = .ok cs ∧ c = .allOf cs := by
  rw [loadConstraint] at h
  split at h
  · cases h
  · rename_i hwidth
    split at h
    · rename_i cs hcs
      exact ⟨Nat.not_lt.mp hwidth, cs, hcs, (Except.ok.inj h).symm⟩
    · cases h

theorem loadConstraint_anyOf {configs : List ConstraintConfig} {c : Constraint}
    (h : r.loadConstraint (.anyOf configs) = .ok c) :
    configs.length ≤ maxCombined ∧ ∃ cs, r.loadAll configs = .ok cs ∧ c = .anyOf cs := by
  rw [loadConstraint] at h
  split at h
  · cases h
  · rename_i hwidth
    split at h
    · rename_i cs hcs
      exact ⟨Nat.not_lt.mp hwidth, cs, hcs, (Except.ok.inj h).symm⟩
    · cases h

theorem loadConstraint_not {config : ConstraintConfig} {c : Constraint}
    (h : r.loadConstraint (.not config) = .ok c) :
    ∃ d, r.loadConstraint config = .ok d ∧ c = .not d := by
  rw [loadConstraint] at h
  split at h
  · rename_i d hd
    exact ⟨d, hd, (Except.ok.inj h).symm⟩
  · cases h

theorem map_of_loadAll {α : Type} {before : ConstraintConfig → α} {after : Constraint → α}
    {configs : List ConstraintConfig} {cs : List Constraint}
    (heach : ∀ config ∈ configs, ∀ c, r.loadConstraint config = .ok c → after c = before config)
    (h : r.loadAll configs = .ok cs) : cs.map after = configs.map before := by
  induction configs generalizing cs with
  | nil =>
    cases h
    rfl
  | cons config rest ih =>
    obtain ⟨hconfig, hrest⟩ := List.forall_mem_cons.mp heach
    obtain ⟨c, ds, hc, hds, rfl⟩ := loadAll_cons_eq_ok h
    rw [List.map_cons, List.map_cons, hconfig c hc, ih hrest hds]

/-- A loaded constraint is evaluated to the declared verdict, if predicates and matchers are. -/
theorem evaluate_of_loadConstraint {node : Node} {single : TypedConfig → Except Failure Bool}
    {matching : MatchSpec → Except Failure Bool}
    (hsingle : ∀ config p, r.resolve config = .ok p → p.test node = single config)
    (hmatching : ∀ spec m, spec.matcher = .ok m → m.check.test node = matching spec)
    {config : ConstraintConfig} {c : Constraint} (h : r.loadConstraint config = .ok c) :
    c.evaluate node = config.verdictBy single matching := by
  -- A combination keeps its kind and the order of its parts, and the bound on their number only
  -- refuses, so the verdict of the parts settles that of the whole.
  induction config using ConstraintConfig.induction generalizing c with
  | single config =>
    obtain ⟨p, hp, rfl⟩ := loadConstraint_single h
    exact hsingle config p hp
  | matching spec =>
    obtain ⟨m, hm, rfl⟩ := loadConstraint_matching h
    exact hmatching spec m hm
  | allOf configs ih =>
    obtain ⟨_, cs, hcs, rfl⟩ := loadConstraint_allOf h
    rw [Constraint.evaluate, Constraint.evaluateAll_eq_firstOther,
      map_of_loadAll (fun config hmem c => ih config hmem) hcs, ConstraintConfig.verdictBy,
      ConstraintConfig.verdictsBy_eq_map]
  | anyOf configs ih =>
    obtain ⟨_, cs, hcs, rfl⟩ := loadConstraint_anyOf h
    rw [Constraint.evaluate, Constraint.evaluateAny_eq_firstOther,
      map_of_loadAll (fun config hmem c => ih config hmem) hcs, ConstraintConfig.verdictBy,
      ConstraintConfig.verdictsBy_eq_map]
  | not config ih =>
    obtain ⟨d, hd, rfl⟩ := loadConstraint_not h
    rw [Constraint.evaluate, ih hd, ConstraintConfig.verdictBy]
    cases config.verdictBy single matching <;> rfl

theorem loadType_eq_ok {config : TypeConfig} {t : NamedType} (h : r.loadType config = .ok t) :
    t.name = config.name ∧ r.loadConstraint config.constraint = .ok t.constraint := by
  rw [loadType] at h
  split at h
  · cases h
  · rename_i c hc
    dsimp only at h
    split at h
    · cases h
    · cases h
      exact ⟨rfl, hc⟩

theorem loadTypes_eq_ok {configs : List TypeConfig} {types : List NamedType}
    (h : r.loadTypes configs = .ok types) :
    types.map (·.name) = configs.map (·.name) ∧
      ∀ config ∈ configs, ∃ t ∈ types, r.loadType config = .ok t := by
  induction configs generalizing types with
  | nil =>
    cases h
    exact ⟨rfl, by simp⟩
  | cons config rest ih =>
    rw [loadTypes] at h
    split at h
    · cases h
    · rename_i t ht
      split at h
      · cases h
      · rename_i ts hts
        cases h
        obtain ⟨hnames, hloaded⟩ := ih hts
        refine ⟨?_, List.forall_mem_cons.mpr ⟨⟨t, List.mem_cons_self, ht⟩, ?_⟩⟩
        · rw [List.map_cons, List.map_cons, hnames, (loadType_eq_ok ht).1]
        · intro config hmem
          obtain ⟨u, hu, hload⟩ := hloaded config hmem
          exact ⟨u, List.mem_cons_of_mem t hu, hload⟩

theorem nodup_of_firstRepeated? {seen names : List String}
    (h : firstRepeated? seen names = none) : names.Nodup ∧ ∀ name ∈ names, name ∉ seen := by
  induction names generalizing seen with
  | nil => exact ⟨List.nodup_nil, by simp⟩
  | cons name rest ih =>
    rw [firstRepeated?] at h
    split at h
    · cases h
    · rename_i hname
      obtain ⟨hnodup, hnew⟩ := ih h
      refine ⟨List.nodup_cons.mpr ⟨fun hmem => hnew name hmem List.mem_cons_self, hnodup⟩, ?_⟩
      refine List.forall_mem_cons.mpr ⟨by simpa using hname, fun n hn hseen => ?_⟩
      exact hnew n hn (List.mem_cons_of_mem name hseen)

theorem find?_of_mem {types : List NamedType} (hnodup : (types.map (·.name)).Nodup)
    {t : NamedType} (ht : t ∈ types) : types.find? (·.name == t.name) = some t := by
  induction types with
  | nil => cases ht
  | cons u rest ih =>
    obtain ⟨hu, hrest⟩ := List.nodup_cons.mp hnodup
    rcases List.mem_cons.mp ht with rfl | hmem
    · exact List.find?_cons_of_pos (beq_self_eq_true t.name)
    · have hne : u.name ≠ t.name := fun hsame => hu (List.mem_map.mpr ⟨t, hmem, hsame.symm⟩)
      rw [List.find?_cons_of_neg (by simpa using hne), ih hrest hmem]

theorem loadSchema_eq_ok {config : SchemaConfig} {schema : Schema}
    (h : r.loadSchema config = .ok schema) : config.maxDepth ≠ some 0 ∧
      (config.types.map (·.name)).Nodup ∧ r.loadTypes config.types = .ok schema.types ∧
      schema.maxDepth = config.maxDepth.getD 512 := by
  rw [loadSchema] at h
  split at h
  · cases h
  · rename_i hdepth
    split at h
    · cases h
    · rename_i hrepeated
      split at h
      · cases h
      · rename_i types htypes
        cases h
        exact ⟨hdepth, (nodup_of_firstRepeated? hrepeated).1, htypes, rfl⟩

/-- A loaded schema has a finder for every type that is written, with the depth that is written. -/
theorem require_of_loadSchema {config : SchemaConfig} {schema : Schema}
    (h : r.loadSchema config = .ok schema) {t : TypeConfig} (ht : t ∈ config.types) :
    ∃ c, r.loadConstraint t.constraint = .ok c ∧
      schema.require t.name = .ok ⟨.named t.name c, config.maxDepth.getD defaultMaxDepth⟩ := by
  obtain ⟨_, hnodup, htypes, hdepth⟩ := loadSchema_eq_ok h
  obtain ⟨hnames, hloaded⟩ := loadTypes_eq_ok htypes
  obtain ⟨named, hmem, hload⟩ := hloaded t ht
  obtain ⟨hname, hconstraint⟩ := loadType_eq_ok hload
  refine ⟨named.constraint, hconstraint, ?_⟩
  rw [← hname, Schema.require, Schema.finder?, Schema.get?, find?_of_mem (hnames ▸ hnodup) hmem,
    hdepth]
  rfl

/-- The finder of a written type gives the answer to the query that is written: the search for the
texts on which the constraint of the type declares that it holds. -/
theorem find_of_loadSchema {config : SchemaConfig} {schema : Schema}
    (h : (RegistryBuilder.registerTest {}).build.loadSchema config = .ok schema) {t : TypeConfig}
    (ht : t ∈ config.types) (document : Node) :
    (schema.require t.name).map (·.find document) =
      .ok (Query.answer ⟨t.name, config.maxDepth.getD 512, t.constraint.verdict⟩ document) := by
  obtain ⟨c, hc, hrequire⟩ := require_of_loadSchema h ht
  have hverdict : ∀ text, c.evaluate (.text text) = t.constraint.verdict text := fun text =>
    evaluate_of_loadConstraint (fun _ _ hp => RegistryBuilder.test_of_resolve hp (.text text))
      (fun _ _ hm => MatchSpec.test_of_matcher hm (.text text)) hc
  have hquery : Finder.query ⟨.named t.name c, config.maxDepth.getD defaultMaxDepth⟩ =
      ⟨t.name, config.maxDepth.getD 512, t.constraint.verdict⟩ := by
    rw [Finder.query, ← funext hverdict]
    rfl
  rw [hrequire, Except.map, Finder.find_eq_report, Finder.report_eq, hquery]

/-- A type of texts that greet, or that a table does not reject. -/
theorem find_of_loadSchema_greeting :
    let greeting : TypeConfig := ⟨"greeting", .anyOf [
      .single ⟨"typefind.core.v1.StringMatcher", .object [("value", .string "Hello"),
        ("match_type", .string "prefix"), ("ignore_case", .bool true)]⟩,
      .not (.single ⟨"typefind.test.v1.Lookup", .object [("accept", .array [.string "no"]),
        ("reject", .array [.string "yes"])]⟩)]⟩
    let document : Node := .container .list
      [(none, .text "HELLO there"), (none, .text "no"), (none, .text "yes")]
    ∃ schema, (RegistryBuilder.registerTest {}).build.loadSchema ⟨none, [greeting]⟩ = .ok schema ∧
      (schema.require "greeting").map (·.find document) = .ok (.ok ["HELLO there", "yes"]) := by
  intro greeting document
  have hloads : ∃ schema,
      (RegistryBuilder.registerTest {}).build.loadSchema ⟨none, [greeting]⟩ = .ok schema :=
    ⟨_, rfl⟩
  obtain ⟨schema, hload⟩ := hloads
  have hfind := find_of_loadSchema hload (List.mem_singleton_self greeting) document
  exact ⟨schema, hload, hfind⟩

end Registry

end Gleaner
