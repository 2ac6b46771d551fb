import Gleaner.Proofs.Schema.Load
/-!
# Which schemas are loaded

A schema is checked in three passes: for a depth of zero, for names that come twice, and for types
that cannot be loaded. The first pass that finds something wrong decides the error, and within a
pass the first place in the order of the types (`Refuses`). What no pass finds fault with is loaded,
and then every name stands for the type that its only entry declares (`Serves`).
-/
namespace Gleaner.Registry

variable {r : Registry}

theorem exists_of_firstRepeated? {seen names : List String} {name : String}
    (h : firstRepeated? seen names = some name) : ∃ front back, names = front ++ name :: back ∧
      front.Nodup ∧ (∀ n ∈ front, n ∉ seen) ∧ (name ∈ front ∨ name ∈ seen) := by
  induction names generalizing seen with
  | nil => cases h
  | cons n rest ih =>
    rw [firstRepeated?] at h
    split at h
    · rename_i hn
      cases h
      exact ⟨[], rest, rfl, List.nodup_nil, by simp, .inr (by simpa using hn)⟩
    · rename_i hn
      obtain ⟨front, back, rfl, hnodup, hfront, hname⟩ := ih h
      have hnew : n ∉ front := fun hmem => hfront n hmem List.mem_cons_self
      refine ⟨n :: front, back, rfl, List.nodup_cons.mpr ⟨hnew, hnodup⟩, ?_, ?_⟩
      · refine List.forall_mem_cons.mpr ⟨by simpa using hn, fun m hm hseen => ?_⟩
        exact hfront m hm (List.mem_cons_of_mem n hseen)
      · rw [List.mem_cons, or_assoc, or_left_comm, ← List.mem_cons]
        exact hname

theorem firstRepeated?_of_repeated {seen front back : List String} {name : String}
    (hnodup : front.Nodup) (hfront : ∀ n ∈ front, n ∉ seen) (hname : name ∈ front ∨ name ∈ seen) :
    firstRepeated? seen (front ++ name :: back) = some name := by
  -- Each name that is passed moves from the front to the names seen, so the repeated one stays
  -- among the two of them together.
  induction front generalizing seen with
  | nil =>
    have hseen : name ∈ seen := hname.resolve_left List.not_mem_nil
    rw [List.nil_append, firstRepeated?, if_pos (List.contains_iff_mem.mpr hseen)]
  | cons n front ih =>
    obtain ⟨hnew, hnodup⟩ := List.nodup_cons.mp hnodup
    obtain ⟨hn, hfront⟩ := List.forall_mem_cons.mp hfront
    rw [List.cons_append, firstRepeated?, if_neg (by simpa using hn)]
    refine ih hnodup (fun m hm hseen => ?_) ?_
    · rcases List.mem_cons.mp hseen with rfl | hseen
      · exact hnew hm
      · exact hfront m hm hseen
    · rw [List.mem_cons, or_left_comm, ← or_assoc, ← List.mem_cons]
      exact hname

/-- Names are different from each other, or else one type is the first to repeat an earlier name. -/
theorem nodup_or_repeated (types : List TypeConfig) : (types.map (·.name)).Nodup ∨
    ∃ front t back, types = front ++ t :: back ∧ (front.map (·.name)).Nodup ∧
      t.name ∈ front.map (·.name) := by
  cases hrepeated : firstRepeated? [] (types.map (·.name)) with
  | none => exact .inl (nodup_of_firstRepeated? hrepeated).1
  | some name =>
    obtain ⟨names, rest, hsplit, hnodup, _, hagain⟩ := exists_of_firstRepeated? hrepeated
    obtain ⟨front, others, rfl, rfl, hothers⟩ := List.map_eq_append_iff.mp hsplit
    obtain ⟨t, back, rfl, rfl, rfl⟩ := List.map_eq_cons_iff.mp hothers
    exact .inr ⟨front, t, back, rfl, hnodup, hagain.resolve_right List.not_mem_nil⟩

theorem loadTypes_cons_of_error {config : TypeConfig} {e : SchemaError}
    (h : r.loadType config = .error e) (rest : List TypeConfig) :
    r.loadTypes (config :: rest) = .error e := by
  rw [loadTypes, h]

theorem loadTypes_cons {config : TypeConfig} {named : NamedType}
    (h : r.loadType config = .ok named) (rest : List TypeConfig) :
    r.loadTypes (config :: rest) = (r.loadTypes rest).map (named :: ·) := by
  rw [loadTypes, h]
  cases r.loadTypes rest <;> rfl

theorem loadTypes_eq_error {configs : List TypeConfig} {e : SchemaError} :
    r.loadTypes configs = .error e ↔ ∃ front t back, configs = front ++ t :: back ∧
      (∀ u ∈ front, ∃ named, r.loadType u = .ok named) ∧ r.loadType t = .error e := by
  constructor
  · intro h
    induction configs with
    | nil => cases h
    | cons config rest ih =>
      cases hconfig : r.loadType config with
      | error other =>
        rw [loadTypes_cons_of_error hconfig] at h
        cases h
        exact ⟨[], config, rest, rfl, by simp, hconfig⟩
      | ok named =>
        rw [loadTypes_cons hconfig] at h
        cases hrest : r.loadTypes rest with
        | ok types =>
          rw [hrest] at h
          cases h
        | error other =>
          rw [hrest] at h
          cases h
          obtain ⟨front, t, back, rfl, hfront, ht⟩ := ih hrest
          exact ⟨config :: front, t, back, rfl,
            List.forall_mem_cons.mpr ⟨⟨named, hconfig⟩, hfront⟩, ht⟩
  · rintro ⟨front, t, back, rfl, hfront, ht⟩
    induction front with
    | nil => exact loadTypes_cons_of_error ht back
    | cons u front ih =>
      obtain ⟨⟨named, hnamed⟩, hfront⟩ := List.forall_mem_cons.mp hfront
      rw [List.cons_append, loadTypes_cons hnamed, ih hfront]
      rfl

/-- What is wrong with a schema: its depth is zero, or else a type has the name of an earlier one
and is the first to do so, or else a type cannot be loaded and is the first of these. -/
inductive Refuses (r : Registry) (config : SchemaConfig) : SchemaError → Prop
  | depth (zero : config.maxDepth = some 0) :
      Refuses r config (.invalidConfig "max_depth must be at least 1")
  | repeated {front back : List TypeConfig} {t : TypeConfig} (positive : config.maxDepth ≠ some 0)
      (types : config.types = front ++ t :: back) (distinct : (front.map (·.name)).Nodup)
      (again : t.name ∈ front.map (·.name)) : Refuses r config (.duplicateType t.name)
  | type {front back : List TypeConfig} {t : TypeConfig} {e : SchemaError}
      (positive : config.maxDepth ≠ some 0) (distinct : (config.types.map (·.name)).Nodup)
      (types : config.types = front ++ t :: back)
      (loaded : ∀ u ∈ front, ∃ named, r.loadType u = .ok named)
      (refused : r.loadType t = .error e) : Refuses r config e

/-- A schema that serves what is written: it has the written names in order, every name stands for
the type that its only entry declares, and finders take the written depth, which is not zero. A name
that is not written has no type, and asking for it tells the names that there are. -/
structure Serves (r : Registry) (config : SchemaConfig) (schema : Schema) : Prop where
  names : schema.names = config.types.map (·.name)
  distinct : (config.types.map (·.name)).Nodup
  positive : 1 ≤ config.maxDepth.getD 512
  present : ∀ t ∈ config.types, ∃ named, r.loadType t = .ok named ∧
    schema.get? t.name = some named ∧
    schema.finder? t.name = some ⟨named.predicate, config.maxDepth.getD 512⟩ ∧
    schema.require t.name = .ok ⟨named.predicate, config.maxDepth.getD 512⟩
  absent : ∀ name ∉ config.types.map (·.name), schema.get? name = none ∧
    schema.finder? name = none ∧
    schema.require name = .error (.unknownType name (config.types.map (·.name)))

theorem loadSchema_eq_map {config : SchemaConfig} (hdepth : config.maxDepth ≠ some 0)
    (hnodup : (config.types.map (·.name)).Nodup) : r.loadSchema config =
      (r.loadTypes config.types).map fun types =>
        ⟨types, config.maxDepth.getD defaultMaxDepth⟩ := by
  have hnone : firstRepeated? [] (config.types.map (·.name)) = none := by
    refine Option.eq_none_iff_forall_ne_some.mpr fun name hname => ?_
    obtain ⟨front, back, hnames, _, _, hagain⟩ := exists_of_firstRepeated? hname
    have hfront : name ∈ front := hagain.resolve_right List.not_mem_nil
    rw [hnames] at hnodup
    exact (List.nodup_append.mp hnodup).2.2 name hfront name List.mem_cons_self rfl
  rw [loadSchema, if_neg hdepth, hnone]
  cases r.loadTypes config.types <;> rfl

theorem loadSchema_eq_duplicateType {config : SchemaConfig} {front back : List TypeConfig}
    {t : TypeConfig} (hdepth : config.maxDepth ≠ some 0)
    (htypes : config.types = front ++ t :: back)
    (hnodup : (front.map (·.name)).Nodup) (hagain : t.name ∈ front.map (·.name)) :
    r.loadSchema config = .error (.duplicateType t.name) := by
  have hfound : firstRepeated? [] (config.types.map (·.name)) = some t.name := by
    rw [htypes, List.map_append, List.map_cons]
    exact firstRepeated?_of_repeated hnodup (fun _ _ => List.not_mem_nil) (.inl hagain)
  rw [loadSchema, if_neg hdepth, hfound]

theorem loadSchema_eq_error {config : SchemaConfig} {e : SchemaError} :
    r.loadSchema config = .error e ↔ Refuses r config e := by
  constructor
  · intro h
    by_cases hdepth : config.maxDepth = some 0
    · rw [loadSchema, if_pos hdepth] at h
      cases h
      exact .depth hdepth
    · rcases nodup_or_repeated config.types with hnodup | ⟨front, t, back, htypes, hnodup, hagain⟩
      · rw [loadSchema_eq_map hdepth hnodup] at h
        cases htypes : r.loadTypes config.types with
        | ok types =>
          rw [htypes] at h
          cases h
        | error other =>
          rw [htypes] at h
          cases h
          obtain ⟨front, t, back, hsplit, hfront, ht⟩ := loadTypes_eq_error.mp htypes
          exact .type hdepth hnodup hsplit hfront ht
      · rw [loadSchema_eq_duplicateType hdepth htypes hnodup hagain] at h
        cases h
        exact .repeated hdepth htypes hnodup hagain
  · intro h
    cases h with
    | depth zero => rw [loadSchema, if_pos zero]
    | repeated positive types distinct again =>
      exact loadSchema_eq_duplicateType positive types distinct again
    | type positive distinct types loaded refused =>
      rw [loadSchema_eq_map positive distinct,
        loadTypes_eq_error.mpr ⟨_, _, _, types, loaded, refused⟩]
      rfl

theorem serves_of_loadSchema {config : SchemaConfig} {schema : Schema}
    (h : r.loadSchema config = .ok schema) : Serves r config schema := by
  obtain ⟨hdepth, hnodup, htypes, hmax⟩ := loadSchema_eq_ok h
  obtain ⟨hnames, hloaded⟩ := loadTypes_eq_ok htypes
  refine ⟨hnames, hnodup, ?_, ?_, ?_⟩
  · cases hwritten : config.maxDepth with
    | none => decide
    | some depth =>
      have hne : depth ≠ 0 := fun hzero => hdepth (hwritten.trans (congrArg some hzero))
      exact Nat.one_le_iff_ne_zero.mpr hne
  · intro t ht
    obtain ⟨named, hmem, hload⟩ := hloaded t ht
    have hget : schema.get? t.name = some named := by
      rw [← (loadType_eq_ok hload).1]
      exact find?_of_mem (hnames ▸ hnodup) hmem
    have hfinder : schema.finder? t.name =
        some ⟨named.predicate, config.maxDepth.getD 512⟩ := by
      rw [Schema.finder?, hget, hmax]
      rfl
    exact ⟨named, hload, hget, hfinder, by rw [Schema.require, hfinder]⟩
  · intro name hname
    have hget : schema.get? name = none := by
      refine List.find?_eq_none.mpr fun named hmem hsame => hname ?_
      rw [← hnames]
      exact List.mem_map.mpr ⟨named, hmem, beq_iff_eq.mp hsame⟩
    have hfinder : schema.finder? name = none := by rw [Schema.finder?, hget, Option.map_none]
    exact ⟨hget, hfinder, by rw [Schema.require, hfinder, Schema.names, hnames]⟩

/-- A schema is loaded exactly if its depth is not zero, its names are different from each other and
each of its types is loaded. Otherwise the first of these that is wrong is the error, at the first
place where it is; and a schema that is loaded serves what is written. -/
theorem loadSchema_decides (r : Registry) (config : SchemaConfig) :
    ((∃ schema, r.loadSchema config = .ok schema) ↔ config.maxDepth ≠ some 0 ∧
      (config.types.map (·.name)).Nodup ∧ ∀ t ∈ config.types, ∃ named, r.loadType t = .ok named) ∧
    (∀ e, r.loadSchema config = .error e ↔ Refuses r config e) ∧
    (∀ schema, r.loadSchema config = .ok schema → Serves r config schema) := by
  refine ⟨⟨?_, ?_⟩, fun e => loadSchema_eq_error, fun schema => serves_of_loadSchema⟩
  · rintro ⟨schema, h⟩
    obtain ⟨hdepth, hnodup, htypes, _⟩ := loadSchema_eq_ok h
    refine ⟨hdepth, hnodup, fun t ht => ?_⟩
    obtain ⟨named, _, hload⟩ := (loadTypes_eq_ok htypes).2 t ht
    exact ⟨named, hload⟩
  · rintro ⟨hdepth, hnodup, hloaded⟩
    rw [loadSchema_eq_map hdepth hnodup]
    cases htypes : r.loadTypes config.types with
    | ok types => exact ⟨_, rfl⟩
    | error e =>
      obtain ⟨front, t, back, hsplit, _, ht⟩ := loadTypes_eq_error.mp htypes
      obtain ⟨named, hnamed⟩ := hloaded t (by simp [hsplit])
      cases ht.symm.trans hnamed

end Gleaner.Registry
