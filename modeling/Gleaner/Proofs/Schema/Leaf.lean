import Gleaner.Schema.Load
import Gleaner.Proofs.Json.Record
import Gleaner.Proofs.Predicate.Matcher
import Gleaner.Proofs.Predicate.Value
/-!
# What leaves declare

The configuration of a predicate declares a verdict on every text. It is read here off the fields of
the configuration as they stand, without the records and the checks that a registry makes of them.
A predicate that a registry makes gives that verdict on a text, and accepts nothing else.
-/
namespace Gleaner

/-- A verdict on texts as a verdict on nodes: what is no text does not conform. -/
def onText (verdict : String → Except Failure Bool) (node : Node) : Except Failure Bool :=
  match node.text? with
  | some text => verdict text
  | none => .ok false

theorem Check.test_ofText (name shown : String) (accepts : String → Bool) (node : Node) :
    (ofText name shown accepts).test node = onText (fun text => .ok (accepts text)) node := by
  unfold ofText onText
  cases h : node.text? <;> simp [h]

namespace Json

theorem toText_eq_ok {j : Json} {s : String} (h : j.toText = .ok s) : j = .string s := by
  cases j <;> cases h
  rfl

theorem toBool_eq_ok {j : Json} {b : Bool} (h : j.toBool = .ok b) : j = .bool b := by
  cases j <;> cases h
  rfl

/-- The integer that a value is, if it is one. -/
def int? : Json → Option Int
  | .int n => some n
  | _ => none

theorem toSize?_eq_ok {j : Json} {size : Option Nat} (h : j.toSize? = .ok size) :
    j.int? = size.map Int.ofNat := by
  cases j with
  | null =>
    cases h
    rfl
  | int i =>
    obtain ⟨n, hn, rfl⟩ := map_eq_ok h
    rw [toSize] at hn
    split at hn
    · cases hn
    · cases hn
      exact congrArg some (Int.toNat_of_nonneg (by omega)).symm
  | _ => cases h

def lists (text : String) : Json → Bool
  | .array items => items.any fun
    | .string s => s == text
    | _ => false
  | _ => false

theorem lists_eq_contains {j : Json} {texts : List String} (h : j.toTexts = .ok texts)
    (text : String) : j.lists text = texts.contains text := by
  cases j with
  | array items =>
    rw [toTexts] at h
    rw [lists]
    induction items generalizing texts with
    | nil =>
      cases h
      rfl
    | cons item rest ih =>
      obtain ⟨s, ss, hitem, hrest, rfl⟩ := mapM_cons_eq_ok h
      rw [toText_eq_ok hitem, List.any_cons, ih hrest, List.contains_cons, Bool.beq_comm]
  | _ => cases h

end Json

theorem MatchSpec.ofName?_of_readKind {name : String} {kind : MatchKind}
    (h : readKind name = .ok kind) : MatchKind.ofName? name = some kind := by
  rw [readKind] at h
  split at h
  · rename_i found hfound
    rw [hfound, Except.ok.inj h]
  · cases h

namespace MatcherConfig

/-- The kind of matching that a value names. -/
def kind? : Json → Option MatchKind
  | .string name => MatchKind.ofName? name
  | .object [(name, .null)] => MatchKind.ofName? name
  | _ => none

theorem readKind_eq_ok {j : Json} {kind : MatchKind} (h : readKind j = .ok kind) :
    kind? j = some kind := by
  unfold readKind at h
  split at h
  · exact MatchSpec.ofName?_of_readKind h
  · rename_i name value
    obtain ⟨k, hk, h⟩ := bind_eq_ok h
    cases value with
    | null => exact Except.ok.inj h ▸ MatchSpec.ofName?_of_readKind hk
    | _ => cases h
  · cases h
  · cases h

def caseIgnored (config : Json) : Bool :=
  match shape.field? "ignore_case" config with
  | some (.bool b) => b
  | _ => false

/-- Whether a text matches the configured value in the configured way. -/
def declared (config : Json) (text : String) : Bool :=
  match shape.field? "value" config, (shape.field? "match_type" config).bind kind? with
  | some (.string value), some kind => kind.accepts value (caseIgnored config) text
  | _, _ => false

theorem Draft.set_eq_ok {name : String} {j : Json} {d next : Draft} (hname : name ∈ shape.fields)
    (h : d.set name j = .ok next) :
    (name = "value" ∧ ∃ s, j.toText = .ok s ∧ next = { d with value := some s }) ∨
    (name = "match_type" ∧ ∃ k, readKind j = .ok k ∧ next = { d with kind := some k }) ∨
    (name = "ignore_case" ∧ ∃ b, j.toBool = .ok b ∧ next = { d with ignoreCase := b }) := by
  simp only [shape, List.mem_cons, List.not_mem_nil, or_false] at hname
  rcases hname with rfl | rfl | rfl
  · obtain ⟨s, hs, rfl⟩ := map_eq_ok h
    exact .inl ⟨rfl, s, hs, rfl⟩
  · obtain ⟨k, hk, rfl⟩ := map_eq_ok h
    exact .inr (.inl ⟨rfl, k, hk, rfl⟩)
  · obtain ⟨b, hb, rfl⟩ := map_eq_ok h
    exact .inr (.inr ⟨rfl, b, hb, rfl⟩)

theorem sets_value : shape.Sets Draft.set "value" Draft.value (·.toText.map some) := by
  intro n hn j d next h
  rcases Draft.set_eq_ok hn h with ⟨rfl, s, hs, rfl⟩ | ⟨rfl, k, hk, rfl⟩ | ⟨rfl, b, hb, rfl⟩
  · simp [hs, Except.map]
  · simp
  · simp

theorem sets_kind : shape.Sets Draft.set "match_type" Draft.kind
    (fun j => (readKind j).map some) := by
  intro n hn j d next h
  rcases Draft.set_eq_ok hn h with ⟨rfl, s, hs, rfl⟩ | ⟨rfl, k, hk, rfl⟩ | ⟨rfl, b, hb, rfl⟩
  · simp
  · simp [hk, Except.map]
  · simp

theorem sets_ignoreCase : shape.Sets Draft.set "ignore_case" Draft.ignoreCase Json.toBool := by
  intro n hn j d next h
  rcases Draft.set_eq_ok hn h with ⟨rfl, s, hs, rfl⟩ | ⟨rfl, k, hk, rfl⟩ | ⟨rfl, b, hb, rfl⟩
  · simp
  · simp
  · simp [hb]

theorem ofJson_eq_ok {config : Json} {c : MatcherConfig} (h : ofJson config = .ok c) :
    shape.field? "value" config = some (.string c.value) ∧
      (shape.field? "match_type" config).bind kind? = some c.kind ∧
      caseIgnored config = c.ignoreCase := by
  obtain ⟨missing, d, hfinish, hpart⟩ := RecordShape.read_part (by decide) h
  have hvalue := hpart sets_value
  have hkind := hpart sets_kind
  have hcase := hpart sets_ignoreCase
  unfold Draft.finish at hfinish
  split at hfinish
  · rename_i value kind hv hk
    cases hfinish
    rw [hv] at hvalue
    rw [hk] at hkind
    obtain ⟨jvalue, hfield, htext⟩ := hvalue.exists_of_some
    obtain ⟨jkind, hkindField, hread⟩ := hkind.exists_of_some
    refine ⟨?_, ?_, ?_⟩
    · rw [hfield, Json.toText_eq_ok htext]
    · rw [hkindField, Option.bind_some, readKind_eq_ok hread]
    · rw [caseIgnored]
      cases hfield : shape.field? "ignore_case" config with
      | some j =>
        rw [hfield] at hcase
        rw [Json.toBool_eq_ok hcase]
      | none =>
        rw [hfield] at hcase
        exact hcase.symm
  · cases hfinish
  · cases hfinish

theorem matcher_eq (c : MatcherConfig) : c.matcher = Matcher.load c.kind c.value c.ignoreCase := by
  obtain ⟨value, kind, ignoreCase⟩ := c
  rw [matcher]
  cases kind with
  | literal comparison =>
    rw [Matcher.load_literal]
    cases comparison <;> rfl
  | regex =>
    rw [Matcher.load, Matcher.build]
    cases Matcher.checkLength value (MatchKind.regex == .regex) with
    | error e => rfl
    | ok _ =>
      cases ignoreCase with
      | false => cases Regex.compile value false <;> rfl
      | true => cases Regex.compile value true <;> rfl

theorem test_of_check {config : Json} {c : MatcherConfig} {check : Check}
    (hread : ofJson config = .ok c) (hcheck : c.check = .ok check) (node : Node) :
    check.test node = onText (fun text => .ok (declared config text)) node := by
  obtain ⟨hvalue, hkind, hcase⟩ := ofJson_eq_ok hread
  obtain ⟨m, hm, rfl⟩ := map_eq_ok hcheck
  have haccepts : ∀ text, m.accepts text = declared config text := by
    intro text
    rw [matcher_eq] at hm
    rw [Matcher.accepts_of_load hm, declared, hvalue, hkind, hcase]
  rw [Matcher.check, Check.test_ofText]
  simp only [haccepts]

theorem check_ne_depthExceeded (c : MatcherConfig) (depth max : Nat) :
    c.check ≠ .error (.depthExceeded depth max) := by
  intro h
  rw [check, matcher_eq] at h
  exact Matcher.load_ne_depthExceeded _ _ _ depth max (map_eq_error h)

end MatcherConfig

namespace CodepointLength

def declared (config : Json) (text : String) : Bool :=
  ((shape.field? "min" config).bind Json.int?).all (· ≤ (text.length : Int)) &&
    ((shape.field? "max" config).bind Json.int?).all ((text.length : Int) ≤ ·)

theorem setBound_eq_ok {name : String} {j : Json} {bounds next : CodepointLength}
    (hname : name ∈ shape.fields) (h : setBound name j bounds = .ok next) :
    (name = "min" ∧ ∃ n, j.toSize? = .ok n ∧ next = { bounds with min := n }) ∨
    (name = "max" ∧ ∃ n, j.toSize? = .ok n ∧ next = { bounds with max := n }) := by
  simp only [shape, List.mem_cons, List.not_mem_nil, or_false] at hname
  rcases hname with rfl | rfl
  · obtain ⟨n, hn, rfl⟩ := map_eq_ok h
    exact .inl ⟨rfl, n, hn, rfl⟩
  · obtain ⟨n, hn, rfl⟩ := map_eq_ok h
    exact .inr ⟨rfl, n, hn, rfl⟩

theorem sets_min : shape.Sets setBound "min" CodepointLength.min Json.toSize? := by
  intro n hn j bounds next h
  rcases setBound_eq_ok hn h with ⟨rfl, size, hsize, rfl⟩ | ⟨rfl, size, hsize, rfl⟩
  · simp [hsize]
  · simp

theorem sets_max : shape.Sets setBound "max" CodepointLength.max Json.toSize? := by
  intro n hn j bounds next h
  rcases setBound_eq_ok hn h with ⟨rfl, size, hsize, rfl⟩ | ⟨rfl, size, hsize, rfl⟩
  · simp
  · simp [hsize]

theorem int?_of_readFrom {j? : Option Json} {bound : Option Nat}
    (h : RecordShape.ReadFrom Json.toSize? none j? bound) :
    j?.bind Json.int? = bound.map Int.ofNat := by
  cases j? with
  | none =>
    cases h
    rfl
  | some j => exact Json.toSize?_eq_ok h

theorem accepts_of_ofJson {config : Json} {bounds : CodepointLength}
    (h : ofJson config = .ok bounds) (text : String) :
    bounds.accepts text = declared config text := by
  obtain ⟨missing, state, hfinish, hpart⟩ := RecordShape.read_part (by decide) h
  cases hfinish
  rw [accepts, declared, int?_of_readFrom (hpart sets_min), int?_of_readFrom (hpart sets_max),
    Option.all_map, Option.all_map]
  congr 2
  · funext n
    simp
  · funext n
    simp

theorem test_of_load {config : Json} {bounds : CodepointLength} {check : Check}
    (hread : ofJson config = .ok bounds) (hload : bounds.load = .ok check) (node : Node) :
    check.test node = onText (fun text => .ok (declared config text)) node := by
  have hcheck : check = bounds.check := by
    unfold load at hload
    split at hload
    · cases hload
    · split at hload
      · cases hload
      · exact (Except.ok.inj hload).symm
    · exact (Except.ok.inj hload).symm
  rw [hcheck, CodepointLength.check, Check.test_ofText]
  simp only [accepts_of_ofJson hread]

theorem load_ne_depthExceeded (bounds : CodepointLength) (depth max : Nat) :
    bounds.load ≠ .error (.depthExceeded depth max) := by
  intro h
  rw [load] at h
  split at h
  · cases h
  · split at h <;> cases h
  · cases h

end CodepointLength

namespace ValidValues

def declared (config : Json) (text : String) : Bool :=
  (shape.field? "values" config).any (·.lists text)

theorem ofJson_eq_ok {config : Json} {values : List String} (h : ofJson config = .ok values) :
    ∃ j, shape.field? "values" config = some j ∧ j.toTexts = .ok values := by
  have hsets : shape.Sets (fun _ j _ => j.toTexts.map some) "values" id
      (fun j => j.toTexts.map some) := by
    intro n hn j state next h
    rw [if_pos (List.mem_singleton.mp hn)]
    exact h
  obtain ⟨missing, state, hfinish, hpart⟩ := RecordShape.read_part (by decide) h
  have hvalues := hpart hsets
  split at hfinish
  · cases hfinish
    exact hvalues.exists_of_some
  · cases hfinish

theorem test_of_load {config : Json} {values : List String} {check : Check}
    (hread : ofJson config = .ok values) (hload : load values = .ok check) (node : Node) :
    check.test node = onText (fun text => .ok (declared config text)) node := by
  obtain ⟨j, hfield, hj⟩ := ofJson_eq_ok hread
  rw [load] at hload
  split at hload
  · cases hload
  · cases hload
    rw [ValidValues.check, Check.test_ofText]
    simp only [accepts_ofList, declared, hfield, Option.any_some, Json.lists_eq_contains hj]

theorem load_ne_depthExceeded (values : List String) (depth max : Nat) :
    load values ≠ .error (.depthExceeded depth max) := by
  intro h
  rw [load] at h
  split at h <;> cases h

end ValidValues

namespace LookupConfig

/-- The configured verdict on a text, which must be in one of the lists. -/
def declared (config : Json) (text : String) : Except Failure Bool :=
  if (shape.field? "accept" config).any (·.lists text) then .ok true
  else if (shape.field? "reject" config).any (·.lists text) then .ok false
  else .error ⟨"no table entry for \"" ++ text ++ "\""⟩

theorem set_eq_ok {name : String} {j : Json} {c next : LookupConfig} (hname : name ∈ shape.fields)
    (h : set name j c = .ok next) :
    (name = "accept" ∧ ∃ texts, j.toTexts = .ok texts ∧ next = { c with accepted := texts }) ∨
    (name = "reject" ∧ ∃ texts, j.toTexts = .ok texts ∧ next = { c with rejected := texts }) := by
  simp only [shape, List.mem_cons, List.not_mem_nil, or_false] at hname
  rcases hname with rfl | rfl
  · obtain ⟨texts, htexts, rfl⟩ := map_eq_ok h
    exact .inl ⟨rfl, texts, htexts, rfl⟩
  · obtain ⟨texts, htexts, rfl⟩ := map_eq_ok h
    exact .inr ⟨rfl, texts, htexts, rfl⟩

theorem sets_accepted : shape.Sets set "accept" accepted Json.toTexts := by
  intro n hn j c next h
  rcases set_eq_ok hn h with ⟨rfl, texts, htexts, rfl⟩ | ⟨rfl, texts, htexts, rfl⟩
  · simp [htexts]
  · simp

theorem sets_rejected : shape.Sets set "reject" rejected Json.toTexts := by
  intro n hn j c next h
  rcases set_eq_ok hn h with ⟨rfl, texts, htexts, rfl⟩ | ⟨rfl, texts, htexts, rfl⟩
  · simp
  · simp [htexts]

theorem contains_of_readFrom {j? : Option Json} {texts : List String}
    (h : RecordShape.ReadFrom Json.toTexts [] j? texts) (text : String) :
    j?.any (·.lists text) = texts.contains text := by
  cases j? with
  | none =>
    cases h
    rfl
  | some j => exact Json.lists_eq_contains h text

theorem test_of_check {config : Json} {c : LookupConfig} {check : Check}
    (hread : ofJson config = .ok c) (hcheck : c.check = .ok check) (node : Node) :
    check.test node = onText (declared config) node := by
  obtain ⟨missing, state, hfinish, hpart⟩ := RecordShape.read_part (by decide) hread
  cases hfinish
  have haccept := contains_of_readFrom (hpart sets_accepted)
  have hreject := contains_of_readFrom (hpart sets_rejected)
  rw [LookupConfig.check] at hcheck
  split at hcheck
  · cases hcheck
  · rename_i hdisjoint
    cases hcheck
    have hverdict : ∀ text, (Lookup.ofLists c.accepted c.rejected).verdict text =
        declared config text := by
      intro text
      have hnot : text ∈ c.accepted → text ∉ c.rejected := by
        simpa using List.find?_eq_none.mp hdisjoint text
      rw [Lookup.verdict, Lookup.get?_ofLists, declared, haccept, hreject]
      by_cases haccepted : text ∈ c.accepted
      · simp [haccepted, hnot haccepted]
      · by_cases hrejected : text ∈ c.rejected <;> simp [haccepted, hrejected]
    unfold Lookup.check onText
    cases htext : node.text? with
    | none => simp [htext]
    | some text => simp [htext, hverdict]

theorem check_ne_depthExceeded (c : LookupConfig) (depth max : Nat) :
    c.check ≠ .error (.depthExceeded depth max) := by
  intro h
  rw [LookupConfig.check] at h
  split at h <;> cases h

end LookupConfig

/-- The verdict that a configured predicate declares on a text, by its type. -/
def TypedConfig.verdict (p : TypedConfig) (text : String) : Except Failure Bool :=
  if p.url = "typefind.core.v1.StringMatcher" then .ok (MatcherConfig.declared p.config text)
  else if p.url = "typefind.core.v1.CodepointLength" then
    .ok (CodepointLength.declared p.config text)
  else if p.url = "typefind.core.v1.ValidValues" then .ok (ValidValues.declared p.config text)
  else if p.url = "typefind.core.v1.AcceptAll" then .ok true
  else if p.url = "typefind.test.v1.Lookup" then LookupConfig.declared p.config text
  else .ok false

/-- The verdict that a specification of a matcher declares on a text. Case counts. -/
def MatchSpec.verdict (spec : MatchSpec) (text : String) : Except Failure Bool :=
  .ok (spec.kind.accepts spec.pattern false text)

theorem MatchSpec.test_of_matcher {spec : MatchSpec} {m : Matcher} (h : spec.matcher = .ok m)
    (node : Node) : m.check.test node = onText spec.verdict node := by
  rw [matcher_eq] at h
  rw [Matcher.check, Check.test_ofText]
  simp only [Matcher.accepts_of_load h]
  rfl

theorem RegistryBuilder.factories_registerTest : (registerTest {}).build.factories =
    [("typefind.core.v1.StringMatcher", .stringMatcher),
      ("typefind.core.v1.CodepointLength", .codepointLength),
      ("typefind.core.v1.ValidValues", .validValues),
      ("typefind.core.v1.AcceptAll", .acceptAll),
      ("typefind.test.v1.Lookup", .lookup)] :=
  rfl

theorem RegistryBuilder.get?_registerTest {url : String} {factory : Factory}
    (h : (registerTest {}).build.get? url = some factory) :
    (url = "typefind.core.v1.StringMatcher" ∧ factory = .stringMatcher) ∨
    (url = "typefind.core.v1.CodepointLength" ∧ factory = .codepointLength) ∨
    (url = "typefind.core.v1.ValidValues" ∧ factory = .validValues) ∨
    (url = "typefind.core.v1.AcceptAll" ∧ factory = .acceptAll) ∨
    (url = "typefind.test.v1.Lookup" ∧ factory = .lookup) := by
  obtain ⟨before, after, hfactories, _⟩ := List.lookup_eq_some_iff.mp h
  have hmem : (url, factory) ∈ (registerTest {}).build.factories := by simp [hfactories]
  rw [factories_registerTest] at hmem
  simpa only [List.mem_cons, List.not_mem_nil, or_false, Prod.mk.injEq] using hmem

theorem Factory.ofReader_eq_ok {α : Type} {read : Json → Except DecodeError α}
    {build : α → Except SchemaError Check} {config : Json} {p : Predicate}
    (h : ofReader read build config = .ok p) :
    ∃ a check, read config = .ok a ∧ build a = .ok check ∧ p = .check check := by
  rw [ofReader] at h
  split at h
  · cases h
  · rename_i a hread
    obtain ⟨check, hcheck, rfl⟩ := map_eq_ok h
    exact ⟨a, check, hread, hcheck, rfl⟩

namespace Factory

/-- The factories of the types that come with the library, and that of tables of verdicts. -/
def library : List Factory := [stringMatcher, codepointLength, validValues, acceptAll, lookup]

theorem ofReader_ne_depthExceeded {α : Type} (read : Json → Except DecodeError α)
    {build : α → Except SchemaError Check} {depth max : Nat}
    (hbuild : ∀ a, build a ≠ .error (.depthExceeded depth max)) (config : Json) :
    ofReader read build config ≠ .error (.depthExceeded depth max) := by
  intro h
  rw [ofReader] at h
  split at h
  · cases h
  · rename_i a _
    exact hbuild a (map_eq_error h)

/-- What the factories of the library report is never a depth. -/
theorem library_ne_depthExceeded {factory : Factory} (h : factory ∈ library) (config : Json)
    (depth max : Nat) : factory config ≠ .error (.depthExceeded depth max) := by
  simp only [library, List.mem_cons, List.not_mem_nil, or_false] at h
  rcases h with rfl | rfl | rfl | rfl | rfl
  · exact ofReader_ne_depthExceeded _ (MatcherConfig.check_ne_depthExceeded · depth max) config
  · exact ofReader_ne_depthExceeded _ (CodepointLength.load_ne_depthExceeded · depth max) config
  · exact ofReader_ne_depthExceeded _ (ValidValues.load_ne_depthExceeded · depth max) config
  · exact nofun
  · exact ofReader_ne_depthExceeded _ (LookupConfig.check_ne_depthExceeded · depth max) config

end Factory

/-- A predicate that the test registry makes gives the declared verdict on texts. -/
theorem RegistryBuilder.test_of_resolve {config : TypedConfig} {p : Predicate}
    (h : (registerTest {}).build.resolve config = .ok p) (node : Node) :
    p.test node = onText config.verdict node := by
  obtain ⟨url, config⟩ := config
  rw [Registry.resolve] at h
  split at h
  · rename_i factory hfactory
    unfold TypedConfig.verdict
    rcases get?_registerTest hfactory with
      ⟨rfl, rfl⟩ | ⟨rfl, rfl⟩ | ⟨rfl, rfl⟩ | ⟨rfl, rfl⟩ | ⟨rfl, rfl⟩
    · obtain ⟨c, check, hread, hbuild, rfl⟩ := Factory.ofReader_eq_ok h
      exact MatcherConfig.test_of_check hread hbuild node
    · obtain ⟨bounds, check, hread, hbuild, rfl⟩ := Factory.ofReader_eq_ok h
      exact CodepointLength.test_of_load hread hbuild node
    · obtain ⟨values, check, hread, hbuild, rfl⟩ := Factory.ofReader_eq_ok h
      exact ValidValues.test_of_load hread hbuild node
    · cases h
      exact Check.test_ofText _ _ _ node
    · obtain ⟨c, check, hread, hbuild, rfl⟩ := Factory.ofReader_eq_ok h
      exact LookupConfig.test_of_check hread hbuild node
  · cases h

end Gleaner
