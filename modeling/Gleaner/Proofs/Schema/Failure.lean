import Gleaner.Proofs.Schema.Defect
import Gleaner.Proofs.Search.Bound
/-!
# When the finders of a schema fail

A constraint fails on a text where its evaluation comes to a leaf that fails, past parts that do not
decide the result (`Reaches`). Of all types of predicates only tables fail, on texts that they do
not cover. So the finders of a schema fail at such a text or for depth, and those of a schema
without tables for depth only.
-/
namespace Gleaner

namespace LookupConfig

def covers (config : Json) (text : String) : Bool :=
  (shape.field? "accept" config).any (·.lists text) ||
    (shape.field? "reject" config).any (·.lists text)

theorem covers_of_declared {config : Json} {text : String} {e : Failure}
    (h : declared config text = .error e) : covers config text = false := by
  rw [declared] at h
  split at h
  · cases h
  · rename_i haccept
    split at h
    · cases h
    · rename_i hreject
      exact Bool.or_eq_false_iff.mpr ⟨Bool.eq_false_iff.mpr haccept, Bool.eq_false_iff.mpr hreject⟩

end LookupConfig

/-- Of all leaves only tables fail, on texts that they have no entry for. -/
theorem TypedConfig.lookup_of_verdict {leaf : TypedConfig} {text : String} {e : Failure}
    (h : leaf.verdict text = .error e) :
    leaf.url = "typefind.test.v1.Lookup" ∧ LookupConfig.covers leaf.config text = false := by
  rw [verdict] at h
  split at h
  · cases h
  · split at h
    · cases h
    · split at h
      · cases h
      · split at h
        · cases h
        · split at h
          · rename_i hurl
            exact ⟨hurl, LookupConfig.covers_of_declared h⟩
          · cases h

namespace ConstraintConfig

variable {text : String} {leaf : TypedConfig}

theorem verdict_allOf (cs : List ConstraintConfig) (text : String) :
    (allOf cs).verdict text = firstOther true (cs.map fun c => c.verdict text) := by
  rw [verdict, verdictBy, verdictsBy_eq_map]
  rfl

theorem verdict_anyOf (cs : List ConstraintConfig) (text : String) :
    (anyOf cs).verdict text = firstOther false (cs.map fun c => c.verdict text) := by
  rw [verdict, verdictBy, verdictsBy_eq_map]
  rfl

theorem verdict_not (c : ConstraintConfig) (text : String) :
    (not c).verdict text = (c.verdict text).map fun holds => !holds := by
  rw [verdict, verdictBy]
  rfl

/-- Evaluating a constraint on a text comes to the leaf: in an "all of" all parts before it hold,
and in an "any of" all parts before it do not. -/
inductive Reaches (text : String) (leaf : TypedConfig) : ConstraintConfig → Prop
  | single : Reaches text leaf (.single leaf)
  | allOf {front back : List ConstraintConfig} {c : ConstraintConfig}
      (before : ∀ b ∈ front, b.verdict text = .ok true) (part : Reaches text leaf c) :
      Reaches text leaf (.allOf (front ++ c :: back))
  | anyOf {front back : List ConstraintConfig} {c : ConstraintConfig}
      (before : ∀ b ∈ front, b.verdict text = .ok false) (part : Reaches text leaf c) :
      Reaches text leaf (.anyOf (front ++ c :: back))
  | not {c : ConstraintConfig} (part : Reaches text leaf c) : Reaches text leaf (.not c)

theorem Reaches.mem_preorder {c : ConstraintConfig} (h : Reaches text leaf c) :
    .single leaf ∈ c.preorder := by
  induction h with
  | single => exact List.mem_singleton_self _
  | @allOf front back c _ _ ih =>
    have hmem : c ∈ front ++ c :: back := by simp
    exact List.mem_cons_of_mem _ (mem_preorderAll.mpr ⟨c, hmem, ih⟩)
  | @anyOf front back c _ _ ih =>
    have hmem : c ∈ front ++ c :: back := by simp
    exact List.mem_cons_of_mem _ (mem_preorderAll.mpr ⟨c, hmem, ih⟩)
  | not _ ih => exact List.mem_cons_of_mem _ ih

/-- A constraint fails on a text exactly if evaluating it comes to a leaf that fails, and the error
is that of the leaf. -/
theorem verdict_eq_error {c : ConstraintConfig} {e : Failure} :
    c.verdict text = .error e ↔ ∃ leaf, Reaches text leaf c ∧ leaf.verdict text = .error e := by
  constructor
  · intro h
    induction c using ConstraintConfig.induction with
    | single leaf => exact ⟨leaf, .single, h⟩
    | matching spec => cases h
    | allOf cs ih =>
      rw [verdict_allOf] at h
      obtain ⟨front, c, back, rfl, hbefore, hc⟩ := firstOther_map_eq_error.mp h
      obtain ⟨leaf, hreaches, hleaf⟩ := ih c (by simp) hc
      exact ⟨leaf, .allOf hbefore hreaches, hleaf⟩
    | anyOf cs ih =>
      rw [verdict_anyOf] at h
      obtain ⟨front, c, back, rfl, hbefore, hc⟩ := firstOther_map_eq_error.mp h
      obtain ⟨leaf, hreaches, hleaf⟩ := ih c (by simp) hc
      exact ⟨leaf, .anyOf hbefore hreaches, hleaf⟩
    | not c ih =>
      rw [verdict_not] at h
      cases hc : c.verdict text with
      | ok holds =>
        rw [hc] at h
        cases h
      | error failure =>
        rw [hc] at h
        cases h
        obtain ⟨leaf, hreaches, hleaf⟩ := ih hc
        exact ⟨leaf, .not hreaches, hleaf⟩
  · rintro ⟨leaf, hreaches, hleaf⟩
    induction hreaches with
    | single => exact hleaf
    | allOf before _ ih =>
      rw [verdict_allOf]
      exact firstOther_map_eq_error.mpr ⟨_, _, _, rfl, before, ih⟩
    | anyOf before _ ih =>
      rw [verdict_anyOf]
      exact firstOther_map_eq_error.mpr ⟨_, _, _, rfl, before, ih⟩
    | not _ ih =>
      rw [verdict_not, ih]
      rfl

end ConstraintConfig

namespace RegistryBuilder

theorem get?_registerCore_lookup :
    (registerCore {}).build.get? "typefind.test.v1.Lookup" = none := by
  decide

theorem resolve_registerTest {config : TypedConfig} {p : Predicate}
    (h : (registerCore {}).build.resolve config = .ok p) :
    (registerTest {}).build.resolve config = .ok p := by
  have hfactories : (registerTest {}).build.factories =
      (registerCore {}).build.factories ++ [("typefind.test.v1.Lookup", .lookup)] := rfl
  rw [Registry.resolve] at h ⊢
  split at h
  · rename_i factory hfactory
    have hlookup : (registerTest {}).build.get? config.url = some factory := by
      rw [Registry.get?] at hfactory ⊢
      rw [hfactories, List.lookup_append, hfactory, Option.some_or]
    rw [hlookup]
    exact h
  · cases h

/-- A constraint of types that come with the library has a verdict on every text. -/
theorem verdict_of_registerCore {c : ConstraintConfig}
    (hadmits : Registry.Admits (registerCore {}).build c) (text : String) :
    ∃ holds, c.verdict text = .ok holds := by
  cases hverdict : c.verdict text with
  | ok holds => exact ⟨holds, rfl⟩
  | error e =>
    -- A leaf that fails would be a table, and the registry has no factory for one.
    obtain ⟨leaf, hreaches, hleaf⟩ := ConstraintConfig.verdict_eq_error.mp hverdict
    obtain ⟨factory, _, hfactory, _⟩ := hadmits.predicates leaf hreaches.mem_preorder
    rw [(TypedConfig.lookup_of_verdict hleaf).1, get?_registerCore_lookup] at hfactory
    cases hfactory

end RegistryBuilder

namespace Registry

variable {r : Registry}

/-- A loaded schema has a finder for each written type, which answers the query that is written, if
the predicates of the registry have the declared verdicts. -/
theorem exists_finder_of_loadSchema
    (hresolve : ∀ config p, r.resolve config = .ok p →
      ∀ text, p.test (.text text) = config.verdict text)
    {config : SchemaConfig} {schema : Schema} (h : r.loadSchema config = .ok schema)
    {t : TypeConfig} (ht : t ∈ config.types) :
    ∃ f, schema.require t.name = .ok f ∧
      f.query = ⟨t.name, config.maxDepth.getD 512, t.constraint.verdict⟩ ∧
      Admits r t.constraint := by
  obtain ⟨c, hc, hrequire⟩ := require_of_loadSchema h ht
  have hverdict : ∀ text, c.evaluate (.text text) = t.constraint.verdict text := fun text =>
    evaluate_of_loadConstraint (fun config p hp => hresolve config p hp text)
      (fun _ _ hm => MatchSpec.test_of_matcher hm (.text text)) hc
  refine ⟨_, hrequire, ?_, loadConstraint_isOk.mp ⟨c, hc⟩⟩
  rw [Finder.query, ← funext hverdict]
  rfl

/-- A schema that is loaded without tables has finders that never fail at a text, and that succeed
exactly on the documents that nest no deeper than the depth of the schema. With tables registered
too, a finder gives texts the verdict that the constraint of its type declares, and fails at a text
only if evaluating that constraint on the text comes to a table that has no entry for it. -/
theorem failure_of_loadSchema {config : SchemaConfig} {schema : Schema} {t : TypeConfig}
    (ht : t ∈ config.types) (document : Node) :
    ((RegistryBuilder.registerCore {}).build.loadSchema config = .ok schema →
      ∃ f, schema.require t.name = .ok f ∧
        (∀ predicate depth source,
          f.find document ≠ .error (.predicateFailure predicate depth source)) ∧
        ((∃ texts, f.find document = .ok texts) ↔ document.depth ≤ config.maxDepth.getD 512)) ∧
    ((RegistryBuilder.registerTest {}).build.loadSchema config = .ok schema →
      ∃ f, schema.require t.name = .ok f ∧
        (∀ text, f.predicate.test (.text text) = t.constraint.verdict text) ∧
        ∀ predicate depth source,
        f.find document = .error (.predicateFailure predicate depth source) →
          ∃ text leaf, (f.query.reached document.preorder).getLast? = some ⟨depth, .text text⟩ ∧
            t.constraint.Reaches text leaf ∧ leaf.url = "typefind.test.v1.Lookup" ∧
            LookupConfig.covers leaf.config text = false) := by
  have htest : ∀ config p, (RegistryBuilder.registerTest {}).build.resolve config = .ok p →
      ∀ text, p.test (.text text) = config.verdict text := fun config p hp text =>
    RegistryBuilder.test_of_resolve hp (.text text)
  have hfind : ∀ f : Finder, f.find document = f.query.answer document := fun f => by
    rw [Finder.find_eq_report, Finder.report_eq]
  constructor
  · intro h
    obtain ⟨f, hrequire, hquery, hadmits⟩ := exists_finder_of_loadSchema
      (fun config p hp => htest config p (RegistryBuilder.resolve_registerTest hp)) h ht
    have hnever : ∀ text, ∃ holds, f.query.test text = .ok holds := by
      rw [hquery]
      exact RegistryBuilder.verdict_of_registerCore hadmits
    have hdepth : f.query.maxDepth = config.maxDepth.getD 512 := by rw [hquery]
    refine ⟨f, hrequire, ?_, ?_⟩
    · intro predicate depth source hfailure
      obtain ⟨text, _, hfails⟩ := Query.answer_predicateFailure ((hfind f).symm.trans hfailure)
      obtain ⟨holds, hholds⟩ := hnever text
      cases hholds.symm.trans hfails
    · rw [hfind, Query.answer_isOk_iff hnever, hdepth]
  · intro h
    obtain ⟨f, hrequire, hquery, _⟩ := exists_finder_of_loadSchema htest h ht
    have hverdict : ∀ text, f.predicate.test (.text text) = t.constraint.verdict text := fun text =>
      congrArg (fun q => Query.test q text) hquery
    refine ⟨f, hrequire, hverdict, fun predicate depth source hfailure => ?_⟩
    obtain ⟨text, hlast, hfails⟩ := Query.answer_predicateFailure ((hfind f).symm.trans hfailure)
    rw [hquery] at hfails
    obtain ⟨leaf, hreaches, hleaf⟩ := ConstraintConfig.verdict_eq_error.mp hfails
    obtain ⟨hurl, hcovers⟩ := TypedConfig.lookup_of_verdict hleaf
    exact ⟨text, leaf, hlast, hreaches, hurl, hcovers⟩

/-- A schema of short texts, and one of texts that a table knows. -/
theorem failure_of_loadSchema_known :
    let short : TypeConfig := ⟨"short", .not (.allOf [
      .matching ⟨.literal .leading, "m"⟩,
      .single ⟨"typefind.core.v1.CodepointLength", .object [("min", .int 4)]⟩])⟩
    let known : TypeConfig := ⟨"known", .allOf [
      .single ⟨"typefind.core.v1.AcceptAll", .object []⟩,
      .single ⟨"typefind.test.v1.Lookup", .object [("accept", .array [.string "yes"])]⟩]⟩
    let document : Node := .list [.text "yes", .text "maybe", .list []]
    (∃ schema f, (RegistryBuilder.registerCore {}).build.loadSchema ⟨some 1, [short]⟩ = .ok schema ∧
      schema.require "short" = .ok f ∧ ∃ texts, f.find document = .ok texts) ∧
    ∃ schema f, (RegistryBuilder.registerTest {}).build.loadSchema ⟨none, [known]⟩ = .ok schema ∧
      schema.require "known" = .ok f ∧
      f.find document =
        .error (.predicateFailure "known" 1 ⟨"no table entry for \"maybe\""⟩) ∧
      ∃ text leaf, (f.query.reached document.preorder).getLast? = some ⟨1, .text text⟩ ∧
        known.constraint.Reaches text leaf ∧ leaf.url = "typefind.test.v1.Lookup" ∧
        LookupConfig.covers leaf.config text = false := by
  intro short known document
  constructor
  · have hloads : ∃ schema,
        (RegistryBuilder.registerCore {}).build.loadSchema ⟨some 1, [short]⟩ = .ok schema :=
      ⟨_, rfl⟩
    obtain ⟨schema, hload⟩ := hloads
    obtain ⟨f, hrequire, _, hfind⟩ :=
      (failure_of_loadSchema (List.mem_singleton_self short) document).1 hload
    have hdepth : document.depth ≤ 1 := by
      rw [Node.depth_le_iff]
      decide
    exact ⟨schema, f, hload, hrequire, hfind.mpr hdepth⟩
  · have hloads : ∃ schema,
        (RegistryBuilder.registerTest {}).build.loadSchema ⟨none, [known]⟩ = .ok schema :=
      ⟨_, rfl⟩
    obtain ⟨schema, hload⟩ := hloads
    obtain ⟨f, hrequire, _, hfailure⟩ :=
      (failure_of_loadSchema (List.mem_singleton_self known) document).2 hload
    obtain ⟨g, hrequire', hquery, _⟩ := exists_finder_of_loadSchema
      (fun _ _ hp text => RegistryBuilder.test_of_resolve hp (.text text)) hload
      (List.mem_singleton_self known)
    obtain rfl : f = g := Except.ok.inj (hrequire.symm.trans hrequire')
    have hfind : f.find document =
        .error (.predicateFailure "known" 1 ⟨"no table entry for \"maybe\""⟩) := by
      rw [Finder.find_eq_report, Finder.report_eq, hquery]
      rfl
    exact ⟨schema, f, hload, hrequire, hfind, hfailure _ _ _ hfind⟩

end Registry

end Gleaner
