import Gleaner.Proofs.Schema.Load
import Gleaner.Proofs.Text.Order
import Mathlib.Data.List.Dedup
import Mathlib.Data.List.Sort
/-!
# Registering types

A registry is put together in steps, and each step registers some types one after another. What
comes of it is a map: a URL stands for the type that was registered for it last, and nothing else
about the steps can be seen in the registry, neither what was registered before nor in what order
the URLs came (`Registry.Holds`, `Registry.Alike`).
-/
namespace Gleaner

theorem lookup_setFactory (url : String) (factory : Factory) (factories : List (String × Factory))
    (name : String) : (setFactory url factory factories).lookup name =
      if name = url then some factory else factories.lookup name :=
  lookup_of_set (setFactory url factory) rfl (fun _ _ _ => rfl) factories name

theorem map_fst_setFactory (url : String) (factory : Factory)
    (factories : List (String × Factory)) :
    (setFactory url factory factories).map (·.1) =
      if url ∈ factories.map (·.1) then factories.map (·.1) else factories.map (·.1) ++ [url] := by
  induction factories with
  | nil => rfl
  | cons entry rest ih =>
    obtain ⟨u, f⟩ := entry
    rw [setFactory]
    by_cases hu : u = url
    · simp [hu]
    · rw [if_neg (by simpa using hu), List.map_cons, List.map_cons, ih]
      by_cases hmem : url ∈ rest.map (·.1)
      · rw [if_pos hmem, if_pos (List.mem_cons_of_mem _ hmem)]
      · rw [if_neg hmem, if_neg (List.not_mem_cons_of_ne_of_not_mem (Ne.symm hu) hmem),
          List.cons_append]

/-- A step in putting a registry together: one type is registered, or the types that come with the
library are, or these with tables of verdicts. -/
inductive Registration where
  | type (url : String) (factory : Factory)
  | core
  | test

namespace Registration

def apply (b : RegistryBuilder) : Registration → RegistryBuilder
  | .type url factory => b.register url factory
  | .core => b.registerCore
  | .test => b.registerTest

def coreEntries : List (String × Factory) :=
  [("typefind.core.v1.StringMatcher", .stringMatcher),
    ("typefind.core.v1.CodepointLength", .codepointLength),
    ("typefind.core.v1.ValidValues", .validValues),
    ("typefind.core.v1.AcceptAll", .acceptAll)]

def entries : Registration → List (String × Factory)
  | .type url factory => [(url, factory)]
  | .core => coreEntries
  | .test => coreEntries ++ [("typefind.test.v1.Lookup", .lookup)]

def entriesOf (history : List Registration) : List (String × Factory) := history.flatMap entries

def urlsOf (history : List Registration) : List String := (entriesOf history).map (·.1)

/-- The latest registration of a URL in a history. -/
def latest? (history : List Registration) (url : String) : Option Factory :=
  (entriesOf history).reverse.lookup url

theorem latest?_isSome {history : List Registration} {url : String} :
    (latest? history url).isSome = true ↔ url ∈ urlsOf history := by
  rw [latest?, lookup_isSome, urlsOf, List.map_reverse, List.mem_reverse]

theorem latest?_eq_none {history : List Registration} {url : String} :
    latest? history url = none ↔ url ∉ urlsOf history := by
  rw [← latest?_isSome, Option.not_isSome_iff_eq_none]

theorem latest?_append (front back : List Registration) (url : String) :
    latest? (front ++ back) url = (latest? back url).or (latest? front url) := by
  rw [latest?, entriesOf, List.flatMap_append, List.reverse_append, List.lookup_append]
  rfl

theorem latest?_swap {a b : Registration}
    (hdisjoint : (a.entries.map (·.1)).Disjoint (b.entries.map (·.1)))
    (front back : List Registration) (url : String) :
    latest? (front ++ a :: b :: back) url = latest? (front ++ b :: a :: back) url := by
  have hsplit : ∀ c d : Registration, latest? (front ++ c :: d :: back) url =
      ((latest? back url).or ((d.entries.reverse ++ c.entries.reverse).lookup url)).or
        (latest? front url) := by
    intro c d
    have htwo : latest? [c, d] url = (d.entries.reverse ++ c.entries.reverse).lookup url := by
      simp [latest?, entriesOf]
    rw [← htwo, ← latest?_append, ← latest?_append]
    rfl
  rw [hsplit, hsplit, lookup_append_comm]
  intro name hb ha
  simp only [List.map_reverse, List.mem_reverse] at hb ha
  exact hdisjoint ha hb

end Registration

namespace RegistryBuilder

open Registration

def registerAll (b : RegistryBuilder) (entries : List (String × Factory)) : RegistryBuilder :=
  entries.foldl (fun b e => b.register e.1 e.2) b

theorem apply_eq_registerAll (b : RegistryBuilder) (step : Registration) :
    step.apply b = b.registerAll step.entries := by
  cases step <;> rfl

theorem lookup_registerAll (b : RegistryBuilder) (entries : List (String × Factory))
    (url : String) :
    (b.registerAll entries).factories.lookup url =
      (entries.reverse.lookup url).or (b.factories.lookup url) :=
  get_foldl_set (fun b url => b.factories.lookup url) (fun b e => b.register e.1 e.2)
    (fun b e => lookup_setFactory e.1 e.2 b.factories) b entries url

theorem nodup_registerAll (b : RegistryBuilder) (entries : List (String × Factory))
    (h : (b.factories.map (·.1)).Nodup) : ((b.registerAll entries).factories.map (·.1)).Nodup := by
  induction entries generalizing b with
  | nil => exact h
  | cons entry rest ih =>
    refine ih (b.register entry.1 entry.2) ?_
    rw [register, map_fst_setFactory]
    split
    · exact h
    · rename_i hnew
      exact h.append (List.nodup_singleton _) (List.disjoint_singleton.mpr hnew)

theorem foldl_apply (b : RegistryBuilder) (history : List Registration) :
    history.foldl (fun b step => step.apply b) b = b.registerAll (entriesOf history) := by
  induction history generalizing b with
  | nil => rfl
  | cons step rest ih =>
    rw [List.foldl_cons, ih, apply_eq_registerAll, entriesOf, entriesOf, List.flatMap_cons]
    exact List.foldl_append.symm

end RegistryBuilder

namespace Registry

open Registration

/-- The registry that a history of registrations builds. -/
def ofHistory (history : List Registration) : Registry :=
  (history.foldl (fun b step => step.apply b) ({} : RegistryBuilder)).build

theorem ofHistory_eq (history : List Registration) :
    ofHistory history = (RegistryBuilder.registerAll {} (entriesOf history)).build := by
  rw [ofHistory, RegistryBuilder.foldl_apply]

theorem get?_ofHistory (history : List Registration) (url : String) :
    (ofHistory history).get? url = latest? history url := by
  rw [ofHistory_eq]
  exact (RegistryBuilder.lookup_registerAll {} (entriesOf history) url).trans Option.or_none

theorem nodup_ofHistory (history : List Registration) :
    ((ofHistory history).factories.map (·.1)).Nodup := by
  rw [ofHistory_eq]
  exact RegistryBuilder.nodup_registerAll {} (entriesOf history) List.nodup_nil

variable {r s : Registry}

theorem mem_urls {url : String} : url ∈ r.urls ↔ r.contains url = true := by
  rw [urls, mem_sorted, contains, get?, lookup_isSome]

theorem rising_urls (h : (r.factories.map (·.1)).Nodup) :
    r.urls.Pairwise fun s t => Text.bytes s < Text.bytes t :=
  (pairwise_lt_sorted h).imp Text.bytes_lt_bytes

theorem shown_congr (hurls : r.urls = s.urls) : r.shown = s.shown := by
  unfold shown
  rw [hurls]

theorem loadAll_congr {configs : List ConstraintConfig}
    (h : ∀ c ∈ configs, r.loadConstraint c = s.loadConstraint c) :
    r.loadAll configs = s.loadAll configs := by
  induction configs with
  | nil => rfl
  | cons c rest ih =>
    obtain ⟨hc, hrest⟩ := List.forall_mem_cons.mp h
    rw [loadAll, loadAll, hc, ih hrest]

section Congruence

variable (h : ∀ url, r.get? url = s.get? url)
include h

theorem contains_congr (url : String) : r.contains url = s.contains url := by
  rw [contains, contains, h]

theorem urls_congr (hr : (r.factories.map (·.1)).Nodup) (hs : (s.factories.map (·.1)).Nodup) :
    r.urls = s.urls := by
  refine (pairwise_lt_sorted hr).eq_of_mem_iff (pairwise_lt_sorted hs) fun url => ?_
  exact mem_urls.trans (contains_congr h url ▸ mem_urls.symm)

variable (hurls : r.urls = s.urls)
include hurls

theorem resolve_congr (config : TypedConfig) : r.resolve config = s.resolve config := by
  rw [resolve, resolve, h, hurls]

theorem loadConstraint_congr (config : ConstraintConfig) :
    r.loadConstraint config = s.loadConstraint config := by
  induction config using ConstraintConfig.induction with
  | single p => rw [loadConstraint, loadConstraint, resolve_congr h hurls]
  | matching spec => rfl
  | allOf cs ih => rw [loadConstraint, loadConstraint, loadAll_congr ih]
  | anyOf cs ih => rw [loadConstraint, loadConstraint, loadAll_congr ih]
  | not c ih => rw [loadConstraint, loadConstraint, ih]

theorem loadType_congr (config : TypeConfig) : r.loadType config = s.loadType config := by
  rw [loadType, loadType, loadConstraint_congr h hurls]

theorem loadTypes_congr (configs : List TypeConfig) :
    r.loadTypes configs = s.loadTypes configs := by
  induction configs with
  | nil => rfl
  | cons config rest ih => rw [loadTypes, loadTypes, loadType_congr h hurls, ih]

theorem loadSchema_congr (config : SchemaConfig) : r.loadSchema config = s.loadSchema config := by
  rw [loadSchema, loadSchema, loadTypes_congr h hurls]

end Congruence

/-- A registry holds what a history registers: for every URL in it the latest registration. The URLs
are counted once each and listed with rising bytes, and others are not known. -/
structure Holds (r : Registry) (history : List Registration) : Prop where
  contains : ∀ url, r.contains url = true ↔ url ∈ urlsOf history
  size : r.size = (urlsOf history).dedup.length
  listed : ∀ url, url ∈ r.urls ↔ url ∈ urlsOf history
  rising : r.urls.Pairwise fun s t => Text.bytes s < Text.bytes t
  latest : ∀ url ∈ urlsOf history, ∃ factory, latest? history url = some factory ∧
    r.get? url = some factory ∧
    ∀ config, r.loadConstraint (.single ⟨url, config⟩) = (factory config).map .single
  unknown : ∀ url ∉ urlsOf history, r.get? url = none ∧
    ∀ config, r.loadConstraint (.single ⟨url, config⟩) = .error (.unknownTypeUrl url r.urls)

/-- Two registries cannot be told apart: they list the same types and load the same from every
configuration. -/
structure Alike (r s : Registry) : Prop where
  get : ∀ url, r.get? url = s.get? url
  contains : ∀ url, r.contains url = s.contains url
  size : r.size = s.size
  urls : r.urls = s.urls
  shown : r.shown = s.shown
  constraint : ∀ config, r.loadConstraint config = s.loadConstraint config
  type : ∀ config, r.loadType config = s.loadType config
  schema : ∀ config, r.loadSchema config = s.loadSchema config

theorem contains_ofHistory (history : List Registration) (url : String) :
    (ofHistory history).contains url = true ↔ url ∈ urlsOf history := by
  rw [contains, get?_ofHistory, latest?_isSome]

theorem size_ofHistory (history : List Registration) :
    (ofHistory history).size = (urlsOf history).dedup.length := by
  have hperm : ((ofHistory history).factories.map (·.1)).Perm (urlsOf history).dedup := by
    refine (List.perm_ext_iff_of_nodup (nodup_ofHistory history) (List.nodup_dedup _)).mpr ?_
    intro url
    rw [List.mem_dedup, ← contains_ofHistory, contains, get?, lookup_isSome]
  rw [← hperm.length_eq, List.length_map, size]

theorem holds_ofHistory (history : List Registration) : (ofHistory history).Holds history where
  contains := contains_ofHistory history
  size := size_ofHistory history
  listed url := mem_urls.trans (contains_ofHistory history url)
  rising := rising_urls (nodup_ofHistory history)
  latest url hurl := by
    obtain ⟨factory, hfactory⟩ := Option.isSome_iff_exists.mp (latest?_isSome.mpr hurl)
    have hget : (ofHistory history).get? url = some factory :=
      (get?_ofHistory history url).trans hfactory
    exact ⟨factory, hfactory, hget, loadConstraint_single_of_get? hget⟩
  unknown url hurl := by
    have hget : (ofHistory history).get? url = none :=
      (get?_ofHistory history url).trans (latest?_eq_none.mpr hurl)
    exact ⟨hget, loadConstraint_single_of_unknown hget⟩

/-- Histories with the same latest registrations build registries that cannot be told apart. -/
theorem alike_ofHistory {history other : List Registration}
    (h : ∀ url, latest? history url = latest? other url) :
    (ofHistory history).Alike (ofHistory other) := by
  have hget : ∀ url, (ofHistory history).get? url = (ofHistory other).get? url := by
    intro url
    rw [get?_ofHistory, get?_ofHistory, h]
  have hurls := urls_congr hget (nodup_ofHistory history) (nodup_ofHistory other)
  have hperm : (urlsOf history).dedup.Perm (urlsOf other).dedup := by
    refine (List.perm_ext_iff_of_nodup (List.nodup_dedup _) (List.nodup_dedup _)).mpr fun url => ?_
    rw [List.mem_dedup, List.mem_dedup, ← latest?_isSome, h, latest?_isSome]
  exact {
    get := hget
    contains := contains_congr hget
    size := by rw [size_ofHistory, size_ofHistory, hperm.length_eq]
    urls := hurls
    shown := shown_congr hurls
    constraint := loadConstraint_congr hget hurls
    type := loadType_congr hget hurls
    schema := loadSchema_congr hget hurls }

/-- A registry holds what its history registers, the latest registration of a URL in place of the
ones before. Only that matters of a history: others with the same latest registrations build
registries that cannot be told apart, and so do steps in the other order if they register different
URLs. -/
theorem ofHistory_latest (history : List Registration) :
    (ofHistory history).Holds history ∧
    (∀ other, (∀ url, latest? history url = latest? other url) →
      (ofHistory history).Alike (ofHistory other)) ∧
    (∀ front a b back, history = front ++ a :: b :: back →
      (a.entries.map (·.1)).Disjoint (b.entries.map (·.1)) →
        (ofHistory history).Alike (ofHistory (front ++ b :: a :: back))) := by
  refine ⟨holds_ofHistory history, fun other => alike_ofHistory, ?_⟩
  rintro front a b back rfl hdisjoint
  exact alike_ofHistory (latest?_swap hdisjoint front back)

/-- A URL that stood for the type of all texts stands for lists of values here, which must be
configured. -/
example : (ofHistory [.type "u" .acceptAll, .type "u" .validValues]).size = 1 ∧
    (ofHistory [.type "u" .acceptAll, .type "u" .validValues]).loadConstraint
      (.single ⟨"u", .object []⟩) = .error (.invalidConfig "missing field `values`") :=
  ⟨rfl, rfl⟩

end Registry

end Gleaner
