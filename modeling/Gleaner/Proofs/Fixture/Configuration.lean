import Gleaner.Fixture.Suite
import Gleaner.Proofs.Schema.Load
/-!
# Predicates of fixtures as configurations

What a fixture writes in the short notation can be written as a configuration: combinations stay, a
predicate becomes one of a registered type with a record for it, and a pattern stays a pattern. The
record is read back as what was written, and the limits that loading checks only refuse. So a
configuration that is loaded gives the very constraint that is built from the notation.
-/
namespace Gleaner

namespace Json

def ofTexts (texts : List String) : Json := .array (texts.map .string)

theorem toTexts_ofTexts (texts : List String) : (ofTexts texts).toTexts = .ok texts := by
  rw [ofTexts, toTexts]
  induction texts with
  | nil => rfl
  | cons text rest ih =>
    rw [List.map_cons, List.mapM_cons, ih]
    rfl

def ofSize? : Option Nat → Json
  | none => .null
  | some n => .int n

theorem toSize?_ofSize? (size : Option Nat) : (ofSize? size).toSize? = .ok size := by
  cases size with
  | none => rfl
  | some n =>
    have hsize : (Json.int n).toSize = .ok n := by
      rw [toSize, if_neg (Int.not_lt.mpr (Int.natCast_nonneg n)), Int.toNat_natCast]
    exact congrArg (Except.map some) hsize

end Json

namespace CodepointLength

def written (bounds : CodepointLength) : List (String × Json) :=
  [("min", .ofSize? bounds.min), ("max", .ofSize? bounds.max)]

theorem ofJson_written (bounds : CodepointLength) :
    ofJson (.object bounds.written) = .ok bounds := by
  have hset : RecordShape.setAll setBound ⟨none, none⟩ bounds.written = .ok bounds := by
    simp [written, RecordShape.setAll, setBound, Json.toSize?_ofSize?, Except.map]
  exact RecordShape.read_object (by simp [written]) (by simp [written, shape]) hset

theorem load_eq_ok {bounds : CodepointLength} {check : Check} (h : bounds.load = .ok check) :
    (bounds.min.isNone && bounds.max.isNone) = false ∧ check = bounds.check := by
  obtain ⟨min, max⟩ := bounds
  cases min with
  | none =>
    cases max with
    | none => cases h
    | some max => exact ⟨rfl, (Except.ok.inj h).symm⟩
  | some min =>
    cases max with
    | none => exact ⟨rfl, (Except.ok.inj h).symm⟩
    | some max =>
      dsimp only [load] at h
      split at h
      · cases h
      · exact ⟨rfl, (Except.ok.inj h).symm⟩

end CodepointLength

namespace ValidValues

def written (values : List String) : List (String × Json) := [("values", .ofTexts values)]

theorem ofJson_written (values : List String) :
    ofJson (.object (written values)) = .ok values := by
  have hset : RecordShape.setAll (fun _ j _ => j.toTexts.map some) none (written values) =
      .ok (some values) := by
    simp [written, RecordShape.setAll, Json.toTexts_ofTexts, Except.map]
  exact RecordShape.read_object (by simp [written]) (by simp [written, shape]) hset

theorem load_eq_ok {values : List String} {check : Check} (h : load values = .ok check) :
    check = (ofList values).check := by
  rw [load] at h
  split at h
  · cases h
  · exact (Except.ok.inj h).symm

end ValidValues

namespace LookupConfig

def written (table : LookupConfig) : List (String × Json) :=
  [("accept", .ofTexts table.accepted), ("reject", .ofTexts table.rejected)]

theorem ofJson_written (table : LookupConfig) : ofJson (.object table.written) = .ok table := by
  have hset : RecordShape.setAll set ⟨[], []⟩ table.written = .ok table := by
    simp [written, RecordShape.setAll, set, Json.toTexts_ofTexts, Except.map]
  exact RecordShape.read_object (by simp [written]) (by simp [written, shape]) hset

theorem check_eq_ok {table : LookupConfig} {check : Check} (h : table.check = .ok check) :
    check = (Lookup.ofLists table.accepted table.rejected).check := by
  rw [LookupConfig.check] at h
  split at h
  · cases h
  · exact (Except.ok.inj h).symm

end LookupConfig

namespace FixturePredicate

@[elab_as_elim]
theorem induction {motive : FixturePredicate → Prop}
    (allOf : ∀ ps, (∀ p ∈ ps, motive p) → motive (.allOf ps))
    (anyOf : ∀ ps, (∀ p ∈ ps, motive p) → motive (.anyOf ps))
    (not : ∀ p, motive p → motive (.not p)) (length : ∀ bounds, motive (.length bounds))
    (oneOf : ∀ values, motive (.oneOf values)) (lookup : ∀ table, motive (.lookup table))
    (acceptAll : ∀ accepts, motive (.acceptAll accepts))
    (matching : ∀ spec, motive (.matching spec)) (p : FixturePredicate) : motive p := by
  match p with
  | .allOf ps =>
    exact allOf ps fun p _ => induction allOf anyOf not length oneOf lookup acceptAll matching p
  | .anyOf ps =>
    exact anyOf ps fun p _ => induction allOf anyOf not length oneOf lookup acceptAll matching p
  | .not p => exact not p (induction allOf anyOf not length oneOf lookup acceptAll matching p)
  | .length bounds => exact length bounds
  | .oneOf values => exact oneOf values
  | .lookup table => exact lookup table
  | .acceptAll accepts => exact acceptAll accepts
  | .matching spec => exact matching spec
termination_by sizeOf p
decreasing_by
  all_goals simp_wf
  · have := List.sizeOf_lt_of_mem ‹p ∈ ps›
    omega
  · have := List.sizeOf_lt_of_mem ‹p ∈ ps›
    omega

def acceptAllConfig : ConstraintConfig := .single ⟨"typefind.core.v1.AcceptAll", .object []⟩

mutual
/-- The configuration that says what a predicate says. -/
def config : FixturePredicate → ConstraintConfig
  | .allOf ps => .allOf (configs ps)
  | .anyOf ps => .anyOf (configs ps)
  | .not p => .not (config p)
  | .length bounds => .single ⟨"typefind.core.v1.CodepointLength", .object bounds.written⟩
  | .oneOf values =>
    .single ⟨"typefind.core.v1.ValidValues", .object (ValidValues.written values)⟩
  | .lookup table => .single ⟨"typefind.test.v1.Lookup", .object table.written⟩
  | .acceptAll accepts => if accepts then acceptAllConfig else .not acceptAllConfig
  | .matching spec => .matching spec
def configs : List FixturePredicate → List ConstraintConfig
  | [] => []
  | p :: rest => config p :: configs rest
end

open RegistryBuilder (registerTest)

theorem resolve_eq_ok {α : Type} {url : String} {read : Json → Except DecodeError α}
    {build : α → Except SchemaError Check} {j : Json} {a : α} {p : Predicate}
    (hurl : (registerTest {}).build.get? url = some (.ofReader read build)) (hread : read j = .ok a)
    (h : (registerTest {}).build.resolve ⟨url, j⟩ = .ok p) :
    ∃ check, build a = .ok check ∧ p = .check check := by
  rw [Registry.resolve, hurl] at h
  obtain ⟨b, check, hb, hcheck, rfl⟩ := Factory.ofReader_eq_ok h
  cases hread.symm.trans hb
  exact ⟨check, hcheck, rfl⟩

theorem buildAll?_of_loadAll {ps : List FixturePredicate} {cs : List Constraint}
    (heach : ∀ p ∈ ps, ∀ c, (registerTest {}).build.loadConstraint p.config = .ok c →
      p.build? = some c)
    (h : (registerTest {}).build.loadAll (configs ps) = .ok cs) : buildAll? ps = some cs := by
  induction ps generalizing cs with
  | nil =>
    cases h
    rfl
  | cons p rest ih =>
    obtain ⟨hp, hrest⟩ := List.forall_mem_cons.mp heach
    rw [configs] at h
    obtain ⟨c, ds, hc, hds, rfl⟩ := Registry.loadAll_cons_eq_ok h
    rw [buildAll?, hp c hc, ih hrest hds]
    rfl

/-- The constraint that is loaded from the configuration of a predicate is the one that is built. -/
theorem build?_of_loadConstraint {p : FixturePredicate} {c : Constraint}
    (h : (registerTest {}).build.loadConstraint p.config = .ok c) : p.build? = some c := by
  -- The leaves are read back from their records; of what loading checks only the bound of a length
  -- matters here, since without one there is nothing to build.
  induction p using induction generalizing c with
  | allOf ps ih =>
    rw [config] at h
    obtain ⟨_, cs, hcs, rfl⟩ := Registry.loadConstraint_allOf h
    rw [build?, buildAll?_of_loadAll (fun p hp c => ih p hp) hcs]
    rfl
  | anyOf ps ih =>
    rw [config] at h
    obtain ⟨_, cs, hcs, rfl⟩ := Registry.loadConstraint_anyOf h
    rw [build?, buildAll?_of_loadAll (fun p hp c => ih p hp) hcs]
    rfl
  | not p ih =>
    rw [config] at h
    obtain ⟨c, hc, rfl⟩ := Registry.loadConstraint_not h
    rw [build?, ih hc]
    rfl
  | length bounds =>
    obtain ⟨q, hq, rfl⟩ := Registry.loadConstraint_single h
    obtain ⟨check, hcheck, rfl⟩ := resolve_eq_ok rfl bounds.ofJson_written hq
    obtain ⟨hbound, rfl⟩ := CodepointLength.load_eq_ok hcheck
    rw [build?, hbound]
    rfl
  | oneOf values =>
    obtain ⟨q, hq, rfl⟩ := Registry.loadConstraint_single h
    obtain ⟨check, hcheck, rfl⟩ := resolve_eq_ok rfl (ValidValues.ofJson_written values) hq
    rw [build?, ValidValues.load_eq_ok hcheck]
    rfl
  | lookup table =>
    obtain ⟨q, hq, rfl⟩ := Registry.loadConstraint_single h
    obtain ⟨check, hcheck, rfl⟩ := resolve_eq_ok rfl table.ofJson_written hq
    rw [build?, LookupConfig.check_eq_ok hcheck]
    rfl
  | acceptAll accepts =>
    cases accepts with
    | true =>
      cases h
      rfl
    | false =>
      cases h
      rfl
  | matching spec =>
    rw [config] at h
    obtain ⟨m, hm, rfl⟩ := Registry.loadConstraint_matching h
    rw [build?, hm]

end FixturePredicate

namespace Fixture

open RegistryBuilder (registerTest)

theorem named?_of_loadType {f : Fixture} {t : NamedType}
    (h : (registerTest {}).build.loadType ⟨f.name, f.predicate.config⟩ = .ok t) :
    f.named? = some t := by
  obtain ⟨(hname : t.name = f.name), hconstraint⟩ := Registry.loadType_eq_ok h
  rw [named?, FixturePredicate.build?_of_loadConstraint hconstraint, Option.map_some, ← hname]

/-- If the configuration of a fixture's predicate is loaded, the predicate can be built, and the two
constraints have the same depth and the same value or error at every node. So searches with them
find the same to any depth, and the fixture's cases run as they do with the loaded type. -/
theorem run?_of_loadType {f : Fixture} {t : NamedType}
    (h : (registerTest {}).build.loadType ⟨f.name, f.predicate.config⟩ = .ok t) :
    ∃ c, f.predicate.build? = some c ∧ c.depth = t.constraint.depth ∧
      (∀ node, c.evaluate node = t.constraint.evaluate node) ∧
      (∀ maxDepth document, Finder.find ⟨.named f.name c, maxDepth⟩ document =
        Finder.find ⟨t.predicate, maxDepth⟩ document) ∧
      f.run? = f.cases.mapM (·.run? ⟨t.predicate, f.maxDepth.getD defaultMaxDepth⟩) := by
  obtain ⟨(hname : t.name = f.name), hconstraint⟩ := Registry.loadType_eq_ok h
  have hbuild := FixturePredicate.build?_of_loadConstraint hconstraint
  refine ⟨t.constraint, hbuild, rfl, fun _ => rfl, fun maxDepth document => ?_, ?_⟩
  · rw [← hname]
    rfl
  · rw [run?, named?_of_loadType h]
    rfl

/-- A fixture of names that a table knows or that are listed. -/
theorem run?_of_loadType_names :
    let f : Fixture := ⟨"names", "", .allOf [.matching ⟨.literal .leading, "arn"⟩,
      .length ⟨some 5, none⟩, .not (.acceptAll false),
      .anyOf [.lookup ⟨["arn:a"], ["arn:b"]⟩, .oneOf ["arn:x"]]], some 1,
      [⟨"known", .sequence [.scalar (.string "arn:a"), .scalar (.string "arn")], ["arn:a"], none⟩]⟩
    ∃ t c, (registerTest {}).build.loadType ⟨f.name, f.predicate.config⟩ = .ok t ∧
      f.predicate.build? = some c ∧ c.depth = 4 ∧
      t.constraint.evaluate (.text "arn:c") = .error ⟨"no table entry for \"arn:c\""⟩ ∧
      Finder.find ⟨t.predicate, 1⟩ (.list [.text "arn:a", .text "arn"]) = .ok ["arn:a"] ∧
      f.run? = f.cases.mapM (·.run? ⟨t.predicate, 1⟩) := by
  intro f
  have hloads : ∃ t, (registerTest {}).build.loadType ⟨f.name, f.predicate.config⟩ = .ok t :=
    ⟨_, rfl⟩
  obtain ⟨t, hload⟩ := hloads
  obtain ⟨c, hbuild, _, hvalue, hfind, hrun⟩ := run?_of_loadType hload
  obtain rfl : _ = c := Option.some.inj hbuild
  refine ⟨t, _, hload, hbuild, rfl, ?_, ?_, hrun⟩
  · rw [← hvalue]
    rfl
  · rw [← hfind, Finder.find_eq_report, Finder.report_eq]
    rfl

end Fixture

end Gleaner
