import Gleaner.Proofs.Schema.Load
import Mathlib.Data.List.Permutation
/-!
# Two ways to ask for a matcher

A constraint may match texts with a pattern, or refer to the type of string matchers and configure
it with the same pattern. The two are read and loaded along different ways, and they come to the
same: something is wrong with the pattern (`MatchKind.patternError?`), or texts that match are
accepted. In what order the fields of the objects stand makes no difference.
-/
namespace Gleaner

namespace MatchKind

def limit : MatchKind → Nat
  | .literal _ => 8192
  | .regex => 4096

/-- What is wrong with a pattern of a kind. Its length is looked at first; only a regular expression
that is not too long is compiled. -/
def patternError? (kind : MatchKind) (pattern : String) (ignoreCase : Bool) : Option SchemaError :=
  if kind.limit < pattern.utf8ByteSize then some (.patternTooLong pattern.utf8ByteSize kind.limit)
  else match kind with
    | .literal _ => none
    | .regex => match Regex.compile pattern ignoreCase with
      | .ok _ => none
      | .error e => some (.invalidPattern pattern e)

theorem checkLength_eq (kind : MatchKind) (pattern : String) :
    Matcher.checkLength pattern (kind == .regex) =
      if kind.limit < pattern.utf8ByteSize then
        .error (.patternTooLong pattern.utf8ByteSize kind.limit)
      else .ok () := by
  rw [← Text.length_bytes]
  cases kind <;> rfl

theorem readKind_name (kind : MatchKind) : MatchSpec.readKind kind.name = .ok kind := by
  cases kind with
  | literal comparison => cases comparison <;> rfl
  | regex => rfl

end MatchKind

/-- A matcher is loaded unless something is wrong with its pattern, and then it is of its kind. -/
theorem Matcher.load_decides (kind : MatchKind) (pattern : String) (ignoreCase : Bool) :
    match kind.patternError? pattern ignoreCase with
    | some e => load kind pattern ignoreCase = .error e
    | none => ∃ m, load kind pattern ignoreCase = .ok m ∧ m.kind = kind := by
  unfold MatchKind.patternError?
  rw [load, kind.checkLength_eq]
  by_cases hlong : kind.limit < pattern.utf8ByteSize
  · rw [if_pos hlong, if_pos hlong]
  · rw [if_neg hlong, if_neg hlong]
    cases kind with
    | literal comparison => exact ⟨_, rfl, rfl⟩
    | regex =>
      rw [build]
      cases Regex.compile pattern ignoreCase with
      | ok r => exact ⟨_, rfl, rfl⟩
      | error e => rfl

namespace MatcherConfig

theorem commutes : shape.Commutes Draft.set := by
  intro m hm n hn hne j k state next final hfirst hsecond
  -- Each of the three fields sets a part of its own, and no field comes twice.
  rcases Draft.set_eq_ok hm hfirst with
    ⟨rfl, a, hj, rfl⟩ | ⟨rfl, a, hj, rfl⟩ | ⟨rfl, a, hj, rfl⟩ <;>
  rcases Draft.set_eq_ok hn hsecond with
    ⟨rfl, b, hk, rfl⟩ | ⟨rfl, b, hk, rfl⟩ | ⟨rfl, b, hk, rfl⟩ <;>
  first
    | exact absurd rfl hne
    | simp [Draft.set, hj, hk, Except.map]

/-- Whether a value configures a string matcher that has regard to case, which may be left open. -/
def Writes (kind : MatchKind) (value : String) (config : Json) : Prop :=
  config.HasFields [("value", .string value), ("match_type", .string kind.name)] ∨
    config.HasFields
      [("value", .string value), ("match_type", .string kind.name), ("ignore_case", .bool false)]

variable {kind : MatchKind} {value : String} {config : Json}

theorem ofJson_of_writes (h : Writes kind value config) :
    ofJson config = .ok ⟨value, kind, false⟩ := by
  have hkind : readKind (.string kind.name) = .ok kind := kind.readKind_name
  rcases h with h | h
  · have hset : RecordShape.setAll Draft.set {}
        [("value", .string value), ("match_type", .string kind.name)] =
          .ok ⟨some value, some kind, false⟩ := by
      simp [RecordShape.setAll, Draft.set, Json.toText, hkind, Except.map]
    exact RecordShape.read_of_hasFields commutes h (by simp) (by simp [shape]) hset
  · have hset : RecordShape.setAll Draft.set {} [("value", .string value),
        ("match_type", .string kind.name), ("ignore_case", .bool false)] =
          .ok ⟨some value, some kind, false⟩ := by
      simp [RecordShape.setAll, Draft.set, Json.toText, Json.toBool, hkind, Except.map]
    exact RecordShape.read_of_hasFields commutes h (by simp) (by simp [shape]) hset

theorem mergeFields_of_writes (h : Writes kind value config) : config.mergeFields = config := by
  rcases h with h | h
  · exact h.mergeFields_eq (by simp) (by simp [Json.mergeFields])
  · exact h.mergeFields_eq (by simp) (by simp [Json.mergeFields])

end MatcherConfig

namespace TypedConfig

theorem commutes : shape.Commutes Draft.set := by
  intro m hm n hn hne j k state next final hfirst hsecond
  simp only [shape, List.mem_cons, List.not_mem_nil, or_false] at hm hn
  rcases hm with rfl | rfl <;> rcases hn with rfl | rfl
  · exact absurd rfl hne
  · obtain ⟨url, hurl, rfl⟩ := map_eq_ok hfirst
    cases hsecond
    simp [Draft.set, hurl, Except.map]
  · obtain ⟨url, hurl, rfl⟩ := map_eq_ok hsecond
    cases hfirst
    simp [Draft.set, hurl, Except.map]
  · exact absurd rfl hne

/-- Whether a value is a constraint that refers to a predicate of a registered type. -/
def Writes (url : String) (config written : Json) : Prop :=
  ∃ predicate, written.HasFields [("type", .string "single"), ("predicate", predicate)] ∧
    predicate.HasFields [("type_url", .string url), ("config", config)]

theorem ofJson_of_hasFields {url : String} {config predicate : Json}
    (h : predicate.HasFields [("type_url", .string url), ("config", config)]) :
    ofJson predicate = .ok ⟨url, config.mergeFields⟩ := by
  have hset : RecordShape.setAll Draft.set {} [("type_url", .string url), ("config", config)] =
      .ok ⟨some url, config.mergeFields⟩ := by
    simp [RecordShape.setAll, Draft.set, Json.toText, Except.map]
  exact RecordShape.read_of_hasFields commutes h (by simp) (by simp [shape]) hset

end TypedConfig

/-- Whether a value is a constraint that matches texts with a pattern. -/
def MatchSpec.Writes (kind : MatchKind) (value : String) (written : Json) : Prop :=
  written.HasFields
    [("type", .string "match"), ("value_match", .object [(kind.name, .string value)])]

namespace ConstraintConfig

theorem read_of_hasFields (nested : Bool) (tag : Tag) {j written : Json} {c : ConstraintConfig}
    (h : written.HasFields [("type", .string tag.name), (tag.field, j)])
    (hfield : readField tag j = .ok c) : read nested written = .ok c := by
  obtain ⟨entries, rfl, hperm⟩ := h.exists_entries
  have hname : Tag.ofJson nested (.string tag.name) = .ok tag := by cases tag <;> rfl
  have hother : tag.field ≠ "type" := by cases tag <;> decide
  have htag : Tag.ofEntries nested entries = .ok tag := by
    rcases List.perm_pair.mp hperm with rfl | rfl
    · simpa [Tag.ofEntries, hother] using hname
    · simpa [Tag.ofEntries, hother] using hname
  have hentries : readEntries tag none entries = .ok c := by
    have hset : readEntries tag none [(tag.field, j)] = .ok c := by
      rw [readEntries, if_pos rfl, hfield]
      rfl
    rcases List.perm_pair.mp hperm with rfl | rfl
    · rw [readEntries, if_neg hother.symm, hset]
    · rw [readEntries, if_pos rfl, hfield]
      exact if_neg hother.symm
  rw [read, htag]
  exact hentries

theorem read_of_writes_matching {kind : MatchKind} {value : String} {written : Json}
    (nested : Bool) (h : MatchSpec.Writes kind value written) :
    read nested written = .ok (.matching ⟨kind, value⟩) := by
  have hspec : MatchSpec.ofJson (.object [(kind.name, .string value)]) = .ok ⟨kind, value⟩ := by
    rw [MatchSpec.ofJson, kind.readKind_name]
    rfl
  refine read_of_hasFields nested .matching h ?_
  rw [readField, hspec]
  rfl

theorem read_of_writes_single {url : String} {config written : Json}
    (nested : Bool) (h : TypedConfig.Writes url config written) :
    read nested written = .ok (.single ⟨url, config.mergeFields⟩) := by
  obtain ⟨predicate, hwritten, hpredicate⟩ := h
  refine read_of_hasFields nested .single hwritten ?_
  rw [readField, TypedConfig.ofJson_of_hasFields hpredicate]
  rfl

end ConstraintConfig

namespace Registry

variable {r : Registry}

theorem loadConstraint_matching_eq (spec : MatchSpec) :
    r.loadConstraint (.matching spec) =
      (Matcher.load spec.kind spec.pattern false).map fun m => .single (.check m.check) := by
  rw [loadConstraint, MatchSpec.matcher_eq]
  cases Matcher.load spec.kind spec.pattern false <;> rfl

theorem loadConstraint_stringMatcher {url : String} {config : Json} {c : MatcherConfig}
    (hregistered : r.get? url = some .stringMatcher) (hread : MatcherConfig.ofJson config = .ok c) :
    r.loadConstraint (.single ⟨url, config⟩) =
      (Matcher.load c.kind c.value c.ignoreCase).map fun m => .single (.check m.check) := by
  rw [loadConstraint_single_of_get? hregistered, Factory.stringMatcher, Factory.ofReader, hread]
  dsimp only
  rw [MatcherConfig.check, MatcherConfig.matcher_eq]
  cases Matcher.load c.kind c.value c.ignoreCase <;> rfl

/-- A constraint that matches with a pattern, and one that refers to a string matcher with the same
pattern, are both read and come to the same. Either something is wrong with the pattern, which is
the error, or they test nodes under the name of the kind and accept the texts that match. -/
theorem loadConstraint_matching_eq_single
    (hregistered : r.get? "typefind.core.v1.StringMatcher" = some .stringMatcher) (kind : MatchKind)
    (value : String) (nested : Bool) {matching single config : Json}
    (hmatching : MatchSpec.Writes kind value matching)
    (hsingle : TypedConfig.Writes "typefind.core.v1.StringMatcher" config single)
    (hconfig : MatcherConfig.Writes kind value config) :
    ∃ c d, ConstraintConfig.read nested matching = .ok c ∧
      ConstraintConfig.read nested single = .ok d ∧ r.loadConstraint c = r.loadConstraint d ∧
      match kind.patternError? value false with
      | some e => r.loadConstraint c = .error e
      | none => ∃ p, r.loadConstraint c = .ok (.single p) ∧ p.name = kind.name ∧
          ∀ node, p.test node = onText (fun text => .ok (kind.accepts value false text)) node := by
  refine ⟨_, _, ConstraintConfig.read_of_writes_matching nested hmatching,
    ConstraintConfig.read_of_writes_single nested hsingle, ?_, ?_⟩
  · rw [MatcherConfig.mergeFields_of_writes hconfig, loadConstraint_matching_eq,
      loadConstraint_stringMatcher hregistered (MatcherConfig.ofJson_of_writes hconfig)]
  · -- Both ways load the same matcher, so it is enough to look at the first.
    rw [loadConstraint_matching_eq]
    have hload := Matcher.load_decides kind value false
    revert hload
    cases kind.patternError? value false with
    | some e =>
      intro hload
      rw [hload]
      rfl
    | none =>
      rintro ⟨m, hm, hkind⟩
      have hmatcher : MatchSpec.matcher ⟨kind, value⟩ = .ok m := (MatchSpec.matcher_eq _).trans hm
      refine ⟨.check m.check, by rw [hm]; rfl, congrArg MatchKind.name hkind, fun node => ?_⟩
      exact MatchSpec.test_of_matcher hmatcher node

/-- The fields of the objects stand in other orders here, and that case counts is written out. -/
theorem loadConstraint_matching_eq_single_prefix :
    let r := (RegistryBuilder.registerTest {}).build
    let matching : Json :=
      .object [("value_match", .object [("prefix", .string "arn:")]), ("type", .string "match")]
    let config : Json := .object
      [("value", .string "arn:"), ("ignore_case", .bool false), ("match_type", .string "prefix")]
    let single : Json := .object
      [("predicate", .object
        [("config", config), ("type_url", .string "typefind.core.v1.StringMatcher")]),
      ("type", .string "single")]
    ∃ c d p, ConstraintConfig.read false matching = .ok c ∧
      ConstraintConfig.read false single = .ok d ∧ r.loadConstraint c = .ok (.single p) ∧
      r.loadConstraint d = .ok (.single p) ∧ p.name = "prefix" ∧
      p.test (.text "arn:aws") = .ok true ∧ p.test (.text "ARN:aws") = .ok false := by
  intro r matching config single
  have hmatching : MatchSpec.Writes (.literal .leading) "arn:" matching := List.Perm.swap _ _ _
  have hsingle : TypedConfig.Writes "typefind.core.v1.StringMatcher" config single :=
    ⟨_, List.Perm.swap _ _ _, List.Perm.swap _ _ _⟩
  have hconfig : MatcherConfig.Writes (.literal .leading) "arn:" config :=
    .inr ((List.Perm.swap _ _ _).cons _)
  obtain ⟨c, d, hc, hd, hsame, p, hp, hname, htest⟩ :=
    loadConstraint_matching_eq_single (r := r) rfl _ _ false hmatching hsingle hconfig
  refine ⟨c, d, p, hc, hd, hp, hsame ▸ hp, hname, ?_, ?_⟩
  · rw [htest]
    exact congrArg Except.ok (by decide)
  · rw [htest]
    exact congrArg Except.ok (by decide)

end Registry

end Gleaner
