import Gleaner.Proofs.Schema.Leaf
/-!
# Which keys a schema may have

Every value inside of a written schema stands in a slot, which says what the configuration has there
and which keys an object may have there. A value that is read has been read slot by slot, so the
objects in it have no keys but those, with one exception: an object for a constraint may have
others, which are dropped with all that is below them.
-/
namespace Gleaner

def Json.isPlain : Json → Bool
  | .array _ => false
  | .object _ => false
  | _ => true

/-- What the configuration has at a place: a record or a constraint, a sequence of these, the
specification of a match, what a predicate is configured with, or a value without parts. -/
inductive Slot where
  | schema | types | named
  | constraint (nested : Bool)
  | parts | reference | spec | payload | plain

namespace Slot

open ConstraintConfig (Tag)

def ofTag : Tag → Slot
  | .single => .reference
  | .matching => .spec
  | .allOf => .parts
  | .anyOf => .parts
  | .not => .constraint true

/-- The keys that are declared for an object in a slot. Those of a constraint go with its tag. -/
def declared (slot : Slot) (entries : List (String × Json)) : List String :=
  match slot with
  | .schema => ["max_depth", "types"]
  | .named => ["name", "constraint"]
  | .constraint nested => match Tag.ofEntries nested entries with
    | .ok tag => ["type", tag.field]
    | .error _ => []
  | .reference => ["type_url", "config"]
  | .spec => ["exact", "prefix", "suffix", "contains", "regex"]
  | _ => []

/-- The slot of the value under a key of an object. -/
def atKey (slot : Slot) (entries : List (String × Json)) (name : String) : Slot :=
  match slot with
  | .schema => if name = "types" then .types else .plain
  | .named => if name = "constraint" then .constraint false else .plain
  | .constraint nested => match Tag.ofEntries nested entries with
    | .ok tag => if name = tag.field then ofTag tag else .plain
    | .error _ => .plain
  | .reference => if name = "config" then .payload else .plain
  | .payload => .payload
  | _ => .plain

/-- The slot of an item of an array. A constraint may be written as its tag and the field for it,
and a record as its fields in order. -/
def atIndex (slot : Slot) (items : List Json) (i : Nat) : Slot :=
  match slot with
  | .types => .named
  | .parts => .constraint true
  | .payload => .payload
  | .constraint nested => match (items.head?.map (Tag.ofJson nested)) with
    | some (.ok tag) => if i = 1 then ofTag tag else .plain
    | _ => .plain
  | slot => match (slot.declared [])[i]? with
    | some name => slot.atKey [] name
    | none => .plain

/-- A value is read as what its slot says. -/
def Reads : Slot → Json → Prop
  | .schema, j => ∃ config, SchemaConfig.ofJson j = .ok config
  | .types, j => ∃ types, SchemaConfig.readTypes j = .ok types
  | .named, j => ∃ config, TypeConfig.ofJson j = .ok config
  | .constraint nested, j => ∃ c, ConstraintConfig.read nested j = .ok c
  | .parts, j => ∃ items cs, j = .array items ∧ ConstraintConfig.readAll items = .ok cs
  | .reference, j => ∃ config, TypedConfig.ofJson j = .ok config
  | .spec, j => ∃ spec, MatchSpec.ofJson j = .ok spec
  | .payload, _ => True
  | .plain, j => j.isPlain = true

end Slot

theorem Json.isPlain_of_toText {j : Json} {s : String} (h : j.toText = .ok s) :
    j.isPlain = true := by
  rw [toText_eq_ok h]
  rfl

theorem Json.isPlain_of_toSize? {j : Json} {size : Option Nat} (h : j.toSize? = .ok size) :
    j.isPlain = true := by
  cases j with
  | array items => cases h
  | object entries => cases h
  | _ => rfl

namespace ConstraintConfig

theorem Tag.isPlain_of_ofJson {nested : Bool} {j : Json} {tag : Tag}
    (h : Tag.ofJson nested j = .ok tag) : j.isPlain = true := by
  cases j with
  | array items => cases h
  | object entries => cases h
  | _ => rfl

theorem Tag.isPlain_of_ofEntries {nested : Bool} {entries : List (String × Json)} {tag : Tag}
    (h : Tag.ofEntries nested entries = .ok tag) {e : String × Json} (he : e ∈ entries)
    (hname : e.1 = "type") : e.2.isPlain = true := by
  have hmem : e ∈ entries.filter (·.1 == "type") :=
    List.mem_filter.mpr ⟨he, beq_iff_eq.mpr hname⟩
  rw [Tag.ofEntries] at h
  split at h
  · rename_i hnone
    rw [hnone] at hmem
    cases hmem
  · rename_i j hone
    rw [hone] at hmem
    rw [List.mem_singleton.mp hmem]
    exact Tag.isPlain_of_ofJson h
  · obtain ⟨_, _, h⟩ := bind_eq_ok h
    cases h

theorem readField_of_readEntries {tag : Tag} {found : Option ConstraintConfig}
    {entries : List (String × Json)} {c : ConstraintConfig}
    (h : readEntries tag found entries = .ok c) {e : String × Json} (he : e ∈ entries)
    (hname : e.1 = tag.field) : ∃ d, readField tag e.2 = .ok d := by
  induction entries generalizing found with
  | nil => cases he
  | cons entry rest ih =>
    obtain ⟨name, j⟩ := entry
    rw [readEntries] at h
    by_cases hfield : name = tag.field
    · rw [if_pos hfield] at h
      split at h
      · cases h
      · obtain ⟨d, hd, h⟩ := bind_eq_ok h
        rcases List.mem_cons.mp he with rfl | he
        · exact ⟨d, hd⟩
        · exact ih h he
    · rw [if_neg hfield] at h
      rcases List.mem_cons.mp he with rfl | he
      · exact absurd hname hfield
      · exact ih h he

theorem readItems_eq_ok {tag : Tag} {items : List Json} {c : ConstraintConfig}
    (h : readItems tag items = .ok c) : ∃ j d, items = [j] ∧ readField tag j = .ok d := by
  cases items with
  | nil => cases h
  | cons j rest =>
    rw [readItems] at h
    obtain ⟨d, hd, h⟩ := bind_eq_ok h
    cases rest with
    | nil => exact ⟨j, d, rfl, hd⟩
    | cons second rest => cases h

theorem read_object {nested : Bool} {entries : List (String × Json)} {c : ConstraintConfig}
    (h : read nested (.object entries) = .ok c) :
    ∃ tag, Tag.ofEntries nested entries = .ok tag ∧ readEntries tag none entries = .ok c := by
  rw [read] at h
  exact bind_eq_ok h

theorem read_array {nested : Bool} {items : List Json} {c : ConstraintConfig}
    (h : read nested (.array items) = .ok c) :
    ∃ j field tag d, items = [j, field] ∧ Tag.ofJson nested j = .ok tag ∧
      readField tag field = .ok d := by
  cases items with
  | nil => cases h
  | cons j rest =>
    rw [read] at h
    obtain ⟨tag, htag, h⟩ := bind_eq_ok h
    obtain ⟨field, d, rfl, hfield⟩ := readItems_eq_ok h
    exact ⟨j, field, tag, d, rfl, htag, hfield⟩

theorem readAll_eq_ok {items : List Json} {cs : List ConstraintConfig}
    (h : readAll items = .ok cs) : ∀ j ∈ items, ∃ c, read true j = .ok c := by
  induction items generalizing cs with
  | nil => simp
  | cons j rest ih =>
    rw [readAll] at h
    obtain ⟨c, hc, h⟩ := bind_eq_ok h
    obtain ⟨ds, hds, _⟩ := bind_eq_ok h
    exact List.forall_mem_cons.mpr ⟨⟨c, hc⟩, ih hds⟩

theorem read_of_readField_not {j : Json} {c : ConstraintConfig}
    (h : readField .not j = .ok c) : ∃ d, read true j = .ok d := by
  cases j with
  | object entries =>
    rw [readField] at h
    obtain ⟨tag, htag, h⟩ := bind_eq_ok h
    obtain ⟨d, hd, _⟩ := bind_eq_ok h
    exact ⟨d, by rw [read, htag]; exact hd⟩
  | array items =>
    cases items with
    | nil => cases h
    | cons j rest =>
      rw [readField] at h
      obtain ⟨tag, htag, h⟩ := bind_eq_ok h
      obtain ⟨d, hd, _⟩ := bind_eq_ok h
      exact ⟨d, by rw [read, htag]; exact hd⟩
  | _ => cases h

theorem reads_of_readField {tag : Tag} {j : Json} {c : ConstraintConfig}
    (h : readField tag j = .ok c) : (Slot.ofTag tag).Reads j := by
  -- A sequence of constraints is read alike under both tags that take one.
  have hparts : ∀ {items : List Json} {wrap : List ConstraintConfig → ConstraintConfig},
      (readAll items).map wrap = .ok c → Slot.parts.Reads (.array items) := fun hitems => by
    obtain ⟨cs, hcs, _⟩ := map_eq_ok hitems
    exact ⟨_, cs, rfl, hcs⟩
  cases tag with
  | single =>
    rw [readField] at h
    obtain ⟨config, hconfig, _⟩ := map_eq_ok h
    exact ⟨config, hconfig⟩
  | matching =>
    rw [readField] at h
    obtain ⟨spec, hspec, _⟩ := map_eq_ok h
    exact ⟨spec, hspec⟩
  | allOf =>
    cases j with
    | array items =>
      rw [readField] at h
      exact hparts h
    | _ => cases h
  | anyOf =>
    cases j with
    | array items =>
      rw [readField] at h
      exact hparts h
    | _ => cases h
  | not => exact read_of_readField_not h

/-- An entry that is not for the tag or its field makes no difference. -/
theorem readEntries_filter {tag : Tag} {keep : String × Json → Bool}
    (hkeep : ∀ e, e.1 = tag.field → keep e = true) (found : Option ConstraintConfig)
    (entries : List (String × Json)) :
    readEntries tag found (entries.filter keep) = readEntries tag found entries := by
  induction entries generalizing found with
  | nil => rfl
  | cons entry rest ih =>
    obtain ⟨name, j⟩ := entry
    by_cases hfield : name = tag.field
    · rw [List.filter_cons_of_pos (hkeep _ hfield), readEntries, readEntries]
      simp only [ih]
    · have hpass : readEntries tag found ((name, j) :: rest) = readEntries tag found rest := by
        rw [readEntries, if_neg hfield]
      cases hkept : keep (name, j) with
      | true => rw [List.filter_cons_of_pos hkept, readEntries, if_neg hfield, ih, hpass]
      | false => rw [List.filter_cons_of_neg (by simp [hkept]), ih, hpass]

end ConstraintConfig

theorem MatchSpec.ofJson_object {entries : List (String × Json)} {spec : MatchSpec}
    (h : ofJson (.object entries) = .ok spec) : ∃ name j, entries = [(name, j)] ∧
      name ∈ MatchKind.all.map (·.name) ∧ j.isPlain = true := by
  match entries with
  | [] => cases h
  | _ :: _ :: _ => cases h
  | [(name, j)] =>
    rw [ofJson] at h
    obtain ⟨kind, hkind, h⟩ := bind_eq_ok h
    obtain ⟨pattern, hpattern, _⟩ := bind_eq_ok h
    have hfound : MatchKind.all.find? (·.name == name) = some kind := ofName?_of_readKind hkind
    have hname : (kind.name == name) = true := by simpa using List.find?_some hfound
    exact ⟨name, j, rfl, List.mem_map.mpr ⟨kind, List.mem_of_find?_eq_some hfound,
      beq_iff_eq.mp hname⟩, Json.isPlain_of_toText hpattern⟩

theorem SchemaConfig.readTypes_eq_ok {j : Json} {types : List TypeConfig}
    (h : readTypes j = .ok types) :
    ∃ items, j = .array items ∧ ∀ item ∈ items, ∃ config, TypeConfig.ofJson item = .ok config := by
  cases j with
  | array items =>
    refine ⟨items, rfl, ?_⟩
    rw [readTypes] at h
    induction items generalizing types with
    | nil => simp
    | cons item rest ih =>
      obtain ⟨config, configs, hconfig, hconfigs, _⟩ := mapM_cons_eq_ok h
      exact List.forall_mem_cons.mpr ⟨⟨config, hconfig⟩, ih hconfigs⟩
  | _ => cases h

namespace Slot

variable {name : String} {j : Json} (entries : List (String × Json))

theorem reads_schema_field {before after : SchemaConfig.Draft}
    (hname : name ∈ SchemaConfig.shape.fields) (h : before.set name j = .ok after) :
    (Slot.schema.atKey entries name).Reads j := by
  simp only [SchemaConfig.shape, List.mem_cons, List.not_mem_nil, or_false] at hname
  rcases hname with rfl | rfl
  · obtain ⟨size, hsize, _⟩ := map_eq_ok h
    exact Json.isPlain_of_toSize? hsize
  · obtain ⟨types, htypes, _⟩ := map_eq_ok h
    exact ⟨types, htypes⟩

theorem reads_named_field {before after : TypeConfig.Draft}
    (hname : name ∈ TypeConfig.shape.fields) (h : before.set name j = .ok after) :
    (Slot.named.atKey entries name).Reads j := by
  simp only [TypeConfig.shape, List.mem_cons, List.not_mem_nil, or_false] at hname
  rcases hname with rfl | rfl
  · obtain ⟨text, htext, _⟩ := map_eq_ok h
    exact Json.isPlain_of_toText htext
  · obtain ⟨c, hc, _⟩ := map_eq_ok h
    exact ⟨c, hc⟩

theorem reads_reference_field {before after : TypedConfig.Draft}
    (hname : name ∈ TypedConfig.shape.fields) (h : before.set name j = .ok after) :
    (Slot.reference.atKey entries name).Reads j := by
  simp only [TypedConfig.shape, List.mem_cons, List.not_mem_nil, or_false] at hname
  rcases hname with rfl | rfl
  · obtain ⟨text, htext, _⟩ := map_eq_ok h
    exact Json.isPlain_of_toText htext
  · trivial

theorem atIndex_of_declared {slot : Slot} (items : List Json) {i : Nat}
    (hrecord : slot = .schema ∨ slot = .named ∨ slot = .reference)
    (hname : (slot.declared [])[i]? = some name) : slot.atIndex items i = slot.atKey [] name := by
  rcases hrecord with rfl | rfl | rfl <;> simp only [atIndex, hname]

variable {slot : Slot} {entries}

/-- In a slot that is read, the value under a declared key has been read as what its slot says. -/
theorem reads_entry (h : slot.Reads (.object entries)) {e : String × Json} (he : e ∈ entries)
    (hname : e.1 ∈ slot.declared entries) : (slot.atKey entries e.1).Reads e.2 := by
  cases slot with
  | schema =>
    obtain ⟨config, h⟩ := h
    obtain ⟨_, before, after, hset⟩ := RecordShape.exists_set_of_read_object h he
    exact reads_schema_field entries hname hset
  | types =>
    obtain ⟨types, h⟩ := h
    cases h
  | named =>
    obtain ⟨config, h⟩ := h
    obtain ⟨_, before, after, hset⟩ := RecordShape.exists_set_of_read_object h he
    exact reads_named_field entries hname hset
  | constraint nested =>
    obtain ⟨c, h⟩ := h
    obtain ⟨tag, htag, h⟩ := ConstraintConfig.read_object h
    simp only [declared, atKey, htag] at hname ⊢
    by_cases hfield : e.1 = tag.field
    · obtain ⟨d, hd⟩ := ConstraintConfig.readField_of_readEntries h he hfield
      rw [if_pos hfield]
      exact ConstraintConfig.reads_of_readField hd
    · have htype : e.1 = "type" := by simpa [hfield] using hname
      rw [if_neg hfield]
      exact ConstraintConfig.Tag.isPlain_of_ofEntries htag he htype
  | parts =>
    obtain ⟨items, cs, h, _⟩ := h
    cases h
  | reference =>
    obtain ⟨config, h⟩ := h
    obtain ⟨_, before, after, hset⟩ := RecordShape.exists_set_of_read_object h he
    exact reads_reference_field entries hname hset
  | spec =>
    obtain ⟨spec, h⟩ := h
    obtain ⟨name, j, rfl, _, hplain⟩ := MatchSpec.ofJson_object h
    rw [List.mem_singleton.mp he]
    exact hplain
  | payload => trivial
  | plain => cases h

theorem reads_item {items : List Json} (h : slot.Reads (.array items)) {i : Nat} {j : Json}
    (hi : items[i]? = some j) : (slot.atIndex items i).Reads j := by
  cases slot with
  | schema =>
    obtain ⟨config, h⟩ := h
    obtain ⟨name, hname, before, after, hset⟩ :=
      RecordShape.exists_set_of_read_array (by decide) h hi
    rw [atIndex_of_declared items (.inl rfl) hname]
    exact reads_schema_field [] (List.mem_of_getElem? hname) hset
  | types =>
    obtain ⟨types, h⟩ := h
    obtain ⟨_, harray, hitems⟩ := SchemaConfig.readTypes_eq_ok h
    cases harray
    exact hitems j (List.mem_of_getElem? hi)
  | named =>
    obtain ⟨config, h⟩ := h
    obtain ⟨name, hname, before, after, hset⟩ :=
      RecordShape.exists_set_of_read_array (by decide) h hi
    rw [atIndex_of_declared items (.inr (.inl rfl)) hname]
    exact reads_named_field [] (List.mem_of_getElem? hname) hset
  | constraint nested =>
    obtain ⟨c, h⟩ := h
    obtain ⟨first, field, tag, d, rfl, htag, hfield⟩ := ConstraintConfig.read_array h
    match i with
    | 0 =>
      cases hi
      simp only [atIndex, List.head?_cons, Option.map_some, htag]
      exact ConstraintConfig.Tag.isPlain_of_ofJson htag
    | 1 =>
      cases hi
      simp only [atIndex, List.head?_cons, Option.map_some, htag]
      exact ConstraintConfig.reads_of_readField hfield
    | _ + 2 => cases hi
  | parts =>
    obtain ⟨_, cs, harray, h⟩ := h
    cases harray
    exact ConstraintConfig.readAll_eq_ok h j (List.mem_of_getElem? hi)
  | reference =>
    obtain ⟨config, h⟩ := h
    obtain ⟨name, hname, before, after, hset⟩ :=
      RecordShape.exists_set_of_read_array (by decide) h hi
    rw [atIndex_of_declared items (.inr (.inr rfl)) hname]
    exact reads_reference_field [] (List.mem_of_getElem? hname) hset
  | spec =>
    obtain ⟨spec, h⟩ := h
    cases h
  | payload => trivial
  | plain => cases h

/-- All keys of an object are declared for its slot. -/
def KeysDeclared (slot : Slot) (entries : List (String × Json)) : Prop :=
  ∀ e ∈ entries, e.1 ∈ slot.declared entries

theorem atKey_of_not_declared {nested : Bool}
    (h : name ∉ (Slot.constraint nested).declared entries) :
    (Slot.constraint nested).atKey entries name = .plain := by
  simp only [declared, atKey] at h ⊢
  split
  · rename_i tag htag
    rw [htag] at h
    exact if_neg fun hname => h (by simp [hname])
  · rfl

/-- An object that is read has declared keys only, if it does not stand for a constraint or in what
a predicate is configured with. -/
theorem keysDeclared_of_reads (h : slot.Reads (.object entries)) :
    slot = .payload ∨ (∃ nested, slot = .constraint nested) ∨ slot.KeysDeclared entries := by
  cases slot with
  | schema =>
    obtain ⟨config, h⟩ := h
    exact .inr (.inr fun e he => (RecordShape.exists_set_of_read_object h he).1)
  | types =>
    obtain ⟨types, h⟩ := h
    cases h
  | named =>
    obtain ⟨config, h⟩ := h
    exact .inr (.inr fun e he => (RecordShape.exists_set_of_read_object h he).1)
  | constraint nested => exact .inr (.inl ⟨nested, rfl⟩)
  | parts =>
    obtain ⟨items, cs, h, _⟩ := h
    cases h
  | reference =>
    obtain ⟨config, h⟩ := h
    exact .inr (.inr fun e he => (RecordShape.exists_set_of_read_object h he).1)
  | spec =>
    obtain ⟨spec, h⟩ := h
    obtain ⟨name, j, rfl, hname, _⟩ := MatchSpec.ofJson_object h
    refine .inr (.inr fun e he => ?_)
    rw [List.mem_singleton.mp he]
    exact hname
  | payload => exact .inl rfl
  | plain => cases h

end Slot

def Slot.kept (slot : Slot) (entries : List (String × Json)) : List (String × Json) :=
  entries.filter fun e => decide (e.1 ∈ slot.declared entries)

/-- A constraint is read as it is read without the keys that are not declared for it. -/
theorem ConstraintConfig.read_kept {nested : Bool} {entries : List (String × Json)}
    {c : ConstraintConfig} (h : read nested (.object entries) = .ok c) :
    read nested (.object ((Slot.constraint nested).kept entries)) = .ok c := by
  obtain ⟨tag, htag, hentries⟩ := read_object h
  have hdeclared : (Slot.constraint nested).declared entries = ["type", tag.field] := by
    simp only [Slot.declared, htag]
  have htags : Tag.ofEntries nested ((Slot.constraint nested).kept entries) = .ok tag := by
    rw [Slot.kept, hdeclared, Tag.ofEntries, List.filter_filter, ← htag, Tag.ofEntries]
    have hkeep : (fun e : String × Json => e.1 == "type" && decide (e.1 ∈ ["type", tag.field])) =
        (·.1 == "type") := by
      funext e
      cases htype : e.1 == "type" with
      | true => simp [beq_iff_eq.mp htype]
      | false => rfl
    rw [hkeep]
  rw [read, htags, Slot.kept, hdeclared]
  exact (readEntries_filter (fun e he => by simp [he]) none entries).trans hentries

/-- What stands in a schema, with its slot: the schema itself, the values under the keys of objects
and the items of arrays. -/
inductive Stands (schema : Json) : Slot → Json → Prop
  | root : Stands schema .schema schema
  | entry {slot : Slot} {entries : List (String × Json)} {name : String} {j : Json}
      (hobject : Stands schema slot (.object entries)) (hmem : (name, j) ∈ entries) :
      Stands schema (slot.atKey entries name) j
  | item {slot : Slot} {items : List Json} {i : Nat} {j : Json}
      (harray : Stands schema slot (.array items)) (hi : items[i]? = some j) :
      Stands schema (slot.atIndex items i) j

/-- All objects in a schema have declared keys only, besides those in what predicates are configured
with. -/
def KeysDeclared (schema : Json) : Prop :=
  ∀ slot entries, Stands schema slot (.object entries) → slot ≠ .payload →
    slot.KeysDeclared entries

/-- All constraints in a schema that are written as objects have declared keys only. -/
def ConstraintKeysDeclared (schema : Json) : Prop :=
  ∀ nested entries, Stands schema (.constraint nested) (.object entries) →
    (Slot.constraint nested).KeysDeclared entries

/-- What stands in a schema that is read is read as what its slot says, unless it stands under a key
that is not declared for a constraint, or below one. -/
theorem Stands.reads {schema : Json} {config : SchemaConfig}
    (hread : SchemaConfig.ofJson schema = .ok config) {slot : Slot} {j : Json}
    (h : Stands schema slot j) :
    slot.Reads j ∨ slot = .plain ∧ ¬ ConstraintKeysDeclared schema := by
  induction h with
  | root => exact .inl ⟨config, hread⟩
  | @entry slot entries name j hobject hmem ih =>
    obtain hreads | ⟨rfl, hstray⟩ := ih
    · by_cases hname : name ∈ slot.declared entries
      · exact .inl (Slot.reads_entry hreads hmem hname)
      · obtain rfl | ⟨nested, rfl⟩ | hdeclared := Slot.keysDeclared_of_reads hreads
        · exact .inl trivial
        · exact .inr ⟨Slot.atKey_of_not_declared hname,
            fun hall => hname (hall nested entries hobject _ hmem)⟩
        · exact absurd (hdeclared _ hmem) hname
    · exact .inr ⟨rfl, hstray⟩
  | @item slot items i j harray hi ih =>
    obtain hreads | ⟨rfl, hstray⟩ := ih
    · exact .inl (Slot.reads_item hreads hi)
    · exact .inr ⟨by simp [Slot.atIndex, Slot.declared], hstray⟩

/-- An object in a schema that is read has declared keys only, or it stands for a constraint, in
what a predicate is configured with or below a key that is not declared for a constraint. -/
theorem Stands.keysDeclared {schema : Json} {config : SchemaConfig}
    (hread : SchemaConfig.ofJson schema = .ok config) {slot : Slot} {entries : List (String × Json)}
    (h : Stands schema slot (.object entries)) :
    slot.KeysDeclared entries ∨ slot = .payload ∨ (∃ nested, slot = .constraint nested) ∨
      slot = .plain ∧ ¬ ConstraintKeysDeclared schema := by
  obtain hreads | hstray := h.reads hread
  · obtain hpayload | hconstraint | hdeclared := Slot.keysDeclared_of_reads hreads
    · exact .inr (.inl hpayload)
    · exact .inr (.inr (.inl hconstraint))
    · exact .inl hdeclared
  · exact .inr (.inr (.inr hstray))

/-- Schemas that are read have declared keys only exactly if this is so for the constraints in them.
The other objects in a schema that is read have declared keys only, and a constraint is read as if
its other keys were not there. -/
theorem SchemaConfig.keysDeclared_iff (schema : Json) :
    ((∀ config, ofJson schema = .ok config → KeysDeclared schema) ↔
      (∃ e, ofJson schema = .error e) ∨ ConstraintKeysDeclared schema) ∧
    ∀ config, ofJson schema = .ok config →
      (∀ slot entries, Stands schema slot (.object entries) →
        slot.KeysDeclared entries ∨ slot = .payload ∨ (∃ nested, slot = .constraint nested) ∨
          slot = .plain ∧ ¬ ConstraintKeysDeclared schema) ∧
      ∀ nested entries, Stands schema (.constraint nested) (.object entries) →
        ∃ c, ConstraintConfig.read nested (.object entries) = .ok c ∧
          ConstraintConfig.read nested (.object ((Slot.constraint nested).kept entries)) =
            .ok c := by
  refine ⟨⟨fun h => ?_, ?_⟩, fun config hread => ⟨fun slot entries h => h.keysDeclared hread, ?_⟩⟩
  · cases hread : ofJson schema with
    | error e => exact .inl ⟨e, rfl⟩
    | ok config =>
      exact .inr fun nested entries hstands =>
        h config hread (.constraint nested) entries hstands (by simp)
  · rintro (⟨e, herror⟩ | hall) config hread slot entries hstands hpayload
    · rw [herror] at hread
      cases hread
    · obtain hdeclared | hslot | ⟨nested, rfl⟩ | ⟨_, hstray⟩ := hstands.keysDeclared hread
      · exact hdeclared
      · exact absurd hslot hpayload
      · exact hall nested entries hstands
      · exact absurd hall hstray
  · intro nested entries hstands
    obtain ⟨c, hc⟩ | ⟨hplain, _⟩ := hstands.reads hread
    · exact ⟨c, hc, ConstraintConfig.read_kept hc⟩
    · cases hplain

/-- A constraint with an option that it does not have is read, and nothing of the option is left. -/
theorem SchemaConfig.ofJson_stray_key :
    let constraint : List (String × Json) := [("type", .string "match"),
      ("value_match", .object [("exact", .string "x")]), ("ignore_case", .bool true)]
    let schema : Json := .object [("types",
      .array [.object [("name", .string "t"), ("constraint", .object constraint)]])]
    ofJson schema = .ok ⟨none, [⟨"t", .matching ⟨.literal .exact, "x"⟩⟩]⟩ ∧
      ¬ KeysDeclared schema := by
  intro constraint schema
  refine ⟨rfl, fun h => ?_⟩
  have hitem : Stands schema .types (.array [.object [("name", .string "t"),
      ("constraint", .object constraint)]]) := Stands.root.entry (List.mem_singleton_self _)
  have htype : Stands schema .named (.object [("name", .string "t"),
      ("constraint", .object constraint)]) := hitem.item (i := 0) rfl
  have hconstraint : Stands schema (.constraint false) (.object constraint) :=
    htype.entry (List.mem_cons_of_mem _ (List.mem_singleton_self ("constraint", _)))
  have hkey := h _ _ hconstraint (by simp) ("ignore_case", .bool true) (by simp [constraint])
  revert hkey
  decide

end Gleaner
