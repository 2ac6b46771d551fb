import Gleaner.Json.Decode
/-!
# Reading records

An object and an array of its fields are two ways to write a record. Either way, reading it sets
named fields one after another (`setAll`), and no name comes twice. So what a field is in the end is
read from the only value that the record gives it, or is what the field was at first.
-/
namespace Gleaner

theorem map_eq_ok {ε α β : Type} {f : α → β} {e : Except ε α} {b : β}
    (h : e.map f = .ok b) : ∃ a, e = .ok a ∧ f a = b := by
  cases e with
  | ok a => exact ⟨a, rfl, Except.ok.inj h⟩
  | error e => cases h

theorem map_eq_error {ε α β : Type} {f : α → β} {e : Except ε α} {error : ε}
    (h : e.map f = .error error) : e = .error error := by
  cases e with
  | ok a => cases h
  | error e => exact congrArg Except.error (Except.error.inj h)

theorem bind_eq_ok {ε α β : Type} {e : Except ε α} {f : α → Except ε β} {b : β}
    (h : e >>= f = .ok b) : ∃ a, e = .ok a ∧ f a = .ok b := by
  cases e with
  | ok a => exact ⟨a, rfl, h⟩
  | error e => cases h

theorem mapM_cons_eq_ok {ε α β : Type} {f : α → Except ε β} {a : α} {rest : List α} {bs : List β}
    (h : (a :: rest).mapM f = .ok bs) :
    ∃ b cs, f a = .ok b ∧ rest.mapM f = .ok cs ∧ b :: cs = bs := by
  rw [List.mapM_cons] at h
  obtain ⟨b, hb, h⟩ := bind_eq_ok h
  obtain ⟨cs, hcs, h⟩ := bind_eq_ok h
  exact ⟨b, cs, hb, hcs, Except.ok.inj h⟩

namespace Json

/-- Whether a value is an object with just the given fields, which may stand in any order. -/
def HasFields (fields : List (String × Json)) : Json → Prop
  | .object entries => entries.Perm fields
  | _ => False

theorem HasFields.exists_entries {fields : List (String × Json)} {j : Json}
    (h : j.HasFields fields) : ∃ entries, j = .object entries ∧ entries.Perm fields := by
  cases j with
  | object entries => exact ⟨entries, rfl, h⟩
  | _ => exact h.elim

theorem setField_of_new {name : String} (j : Json) {fields : List (String × Json)}
    (h : name ∉ fields.map (·.1)) : setField name j fields = fields ++ [(name, j)] := by
  induction fields with
  | nil => rfl
  | cons field rest ih =>
    rw [List.map_cons, List.mem_cons, not_or] at h
    obtain ⟨hne, hrest⟩ := h
    rw [setField, if_neg (by simpa using Ne.symm hne), ih hrest, List.cons_append]

theorem mergeObject_of_nodup (merged : List (String × Json)) {fields : List (String × Json)}
    (hnodup : ((merged ++ fields).map (·.1)).Nodup)
    (hmerged : ∀ e ∈ fields, e.2.mergeFields = e.2) :
    mergeObject merged fields = merged ++ fields := by
  induction fields generalizing merged with
  | nil => rw [mergeObject, List.append_nil]
  | cons field rest ih =>
    obtain ⟨hfield, hrest⟩ := List.forall_mem_cons.mp hmerged
    have hnew : field.1 ∉ merged.map (·.1) := by
      rw [List.map_append] at hnodup
      exact fun hmem => (List.nodup_append.mp hnodup).2.2 field.1 hmem _ List.mem_cons_self rfl
    rw [List.append_cons] at hnodup ⊢
    rw [mergeObject, hfield, setField_of_new field.2 hnew, ih _ hnodup hrest]

theorem HasFields.mergeFields_eq {fields : List (String × Json)} {j : Json} (h : j.HasFields fields)
    (hnodup : (fields.map (·.1)).Nodup) (hmerged : ∀ e ∈ fields, e.2.mergeFields = e.2) :
    j.mergeFields = j := by
  obtain ⟨entries, rfl, hperm⟩ := h.exists_entries
  have hnames : (entries.map (·.1)).Nodup := (hperm.map (·.1)).nodup_iff.mpr hnodup
  rw [mergeFields, mergeObject_of_nodup [] hnames fun e he => hmerged e (hperm.mem_iff.mp he),
    List.nil_append]

end Json

namespace RecordShape

variable {σ α β : Type} {shape : RecordShape} {set : String → Json → σ → Except DecodeError σ}

/-- The values of a record with the names of their fields: the entries of an object, or the items of
an array under the names that stand at their places. -/
def entries (shape : RecordShape) : Json → List (String × Json)
  | .object entries => entries
  | .array items => shape.fields.zip items
  | _ => []

/-- The value that a record gives a field, if it gives one. -/
def field? (shape : RecordShape) (name : String) (j : Json) : Option Json :=
  (shape.entries j).lookup name

def setAll (set : String → Json → σ → Except DecodeError σ) (state : σ) :
    List (String × Json) → Except DecodeError σ
  | [] => .ok state
  | (name, j) :: rest => match set name j state with
    | .ok state => setAll set state rest
    | .error e => .error e

/-- Entries that are read have names of fields, and no name comes twice. -/
theorem readEntries_eq_ok {seen : List String} {state final : σ} {entries : List (String × Json)}
    (h : shape.readEntries set seen state entries = .ok final) :
    (entries.map (·.1)).Nodup ∧ (∀ name ∈ entries.map (·.1), name ∈ shape.fields ∧ name ∉ seen) ∧
      setAll set state entries = .ok final := by
  induction entries generalizing seen state with
  | nil => exact ⟨List.nodup_nil, by simp, h⟩
  | cons entry rest ih =>
    obtain ⟨name, j⟩ := entry
    rw [readEntries] at h
    split at h
    · cases h
    · rename_i hknown
      split at h
      · cases h
      · rename_i hseen
        split at h
        · rename_i next hset
          obtain ⟨hnodup, hnames, hall⟩ := ih h
          have hname : name ∉ rest.map (·.1) :=
            fun hmem => (hnames name hmem).2 List.mem_cons_self
          refine ⟨List.nodup_cons.mpr ⟨hname, hnodup⟩, ?_, by rw [setAll, hset]; exact hall⟩
          intro n hn
          rcases List.mem_cons.mp hn with rfl | hn
          · exact ⟨by simpa using hknown, by simpa using hseen⟩
          · exact ⟨(hnames n hn).1, fun hmem => (hnames n hn).2 (List.mem_cons_of_mem _ hmem)⟩
        · cases h

theorem readEntries_of_setAll {seen : List String} {state final : σ}
    {entries : List (String × Json)} (hnodup : (entries.map (·.1)).Nodup)
    (hnames : ∀ name ∈ entries.map (·.1), name ∈ shape.fields ∧ name ∉ seen)
    (h : setAll set state entries = .ok final) :
    shape.readEntries set seen state entries = .ok final := by
  induction entries generalizing seen state with
  | nil => exact h
  | cons entry rest ih =>
    obtain ⟨name, j⟩ := entry
    obtain ⟨hname, hnodup⟩ := List.nodup_cons.mp hnodup
    obtain ⟨⟨hfield, hnew⟩, hnames⟩ := List.forall_mem_cons.mp hnames
    rw [readEntries, if_neg (by simpa using hfield), if_neg (by simpa using hnew)]
    rw [setAll] at h
    cases hset : set name j state with
    | error e =>
      rw [hset] at h
      cases h
    | ok next =>
      rw [hset] at h
      refine ih hnodup (fun n hn => ⟨(hnames n hn).1, fun hseen => ?_⟩) h
      rcases List.mem_cons.mp hseen with rfl | hseen
      · exact hname hn
      · exact (hnames n hn).2 hseen

/-- An object with different names of fields is read if its fields can be set one after another. -/
theorem read_object {surplus : Json.Surplus} {initial state : σ}
    {finish : (Nat → DecodeError) → σ → Except DecodeError α} {entries : List (String × Json)}
    (hnodup : (entries.map (·.1)).Nodup) (hfields : ∀ name ∈ entries.map (·.1), name ∈ shape.fields)
    (h : setAll set initial entries = .ok state) :
    shape.read surplus set initial finish (.object entries) =
      finish (fun index => .missingField (shape.fields.getD index "")) state := by
  rw [read, readEntries_of_setAll hnodup (fun n hn => ⟨hfields n hn, List.not_mem_nil⟩) h]

/-- What is set into two different fields comes to the same in either order. -/
def Commutes (shape : RecordShape) (set : String → Json → σ → Except DecodeError σ) : Prop :=
  ∀ m ∈ shape.fields, ∀ n ∈ shape.fields, m ≠ n → ∀ j k state next final,
    set m j state = .ok next → set n k next = .ok final →
      ∃ other, set n k state = .ok other ∧ set m j other = .ok final

theorem setAll_cons_eq_ok {name : String} {j : Json} {rest : List (String × Json)}
    {state final : σ} : setAll set state ((name, j) :: rest) = .ok final ↔
      ∃ next, set name j state = .ok next ∧ setAll set next rest = .ok final := by
  rw [setAll]
  cases set name j state with
  | ok next => simp
  | error e => simp

theorem setAll_perm (hcommutes : shape.Commutes set) {entries others : List (String × Json)}
    (hperm : entries.Perm others) (hnodup : (entries.map (·.1)).Nodup)
    (hfields : ∀ n ∈ entries.map (·.1), n ∈ shape.fields) {state final : σ}
    (h : setAll set state entries = .ok final) : setAll set state others = .ok final := by
  induction hperm generalizing state with
  | nil => exact h
  | cons entry hrest ih =>
    obtain ⟨next, hset, h⟩ := setAll_cons_eq_ok.mp h
    exact setAll_cons_eq_ok.mpr
      ⟨next, hset, ih (List.nodup_cons.mp hnodup).2 (List.forall_mem_cons.mp hfields).2 h⟩
  | swap second first rest =>
    obtain ⟨next, hfirst, h⟩ := setAll_cons_eq_ok.mp h
    obtain ⟨last, hsecond, h⟩ := setAll_cons_eq_ok.mp h
    obtain ⟨hfirstField, hfields⟩ := List.forall_mem_cons.mp hfields
    obtain ⟨hsecondField, _⟩ := List.forall_mem_cons.mp hfields
    have hne : first.1 ≠ second.1 := fun hsame =>
      (List.nodup_cons.mp hnodup).1 (List.mem_cons.mpr (.inl hsame))
    obtain ⟨other, hsecond, hfirst⟩ :=
      hcommutes _ hfirstField _ hsecondField hne _ _ _ _ _ hfirst hsecond
    exact setAll_cons_eq_ok.mpr ⟨other, hsecond, setAll_cons_eq_ok.mpr ⟨last, hfirst, h⟩⟩
  | trans hfirst _ ihfirst ihsecond =>
    have hnames := hfirst.map (·.1)
    refine ihsecond (hnames.nodup hnodup) (fun n hn => hfields n (hnames.mem_iff.mpr hn)) ?_
    exact ihfirst hnodup hfields h

/-- An object is read as if its fields stood in any other order in which they can be set. -/
theorem read_of_hasFields {surplus : Json.Surplus} {initial state : σ}
    {finish : (Nat → DecodeError) → σ → Except DecodeError α} {fields : List (String × Json)}
    {j : Json} (hcommutes : shape.Commutes set) (hj : j.HasFields fields)
    (hnodup : (fields.map (·.1)).Nodup) (hfields : ∀ n ∈ fields.map (·.1), n ∈ shape.fields)
    (h : setAll set initial fields = .ok state) :
    shape.read surplus set initial finish j =
      finish (fun index => .missingField (shape.fields.getD index "")) state := by
  obtain ⟨entries, rfl, hperm⟩ := hj.exists_entries
  have hnames := hperm.map (·.1)
  exact read_object (hnames.nodup_iff.mpr hnodup) (fun n hn => hfields n (hnames.mem_iff.mp hn))
    (setAll_perm hcommutes hperm.symm hnodup hfields h)

theorem readItems_eq_setAll (state : σ) (names : List String) (items : List Json) :
    shape.readItems set state names items = setAll set state (names.zip items) := by
  induction names generalizing state items with
  | nil => rfl
  | cons name names ih =>
    cases items with
    | nil => rfl
    | cons j rest =>
      rw [readItems, List.zip_cons_cons, setAll]
      cases set name j state with
      | ok next => exact ih next rest
      | error e => rfl

theorem map_fst_zip_sublist (names : List String) (items : List Json) :
    ((names.zip items).map (·.1)).Sublist names := by
  induction names generalizing items with
  | nil => exact List.nil_sublist _
  | cons name names ih =>
    cases items with
    | nil => exact List.nil_sublist _
    | cons j rest => exact (ih rest).cons_cons name

theorem read_eq_ok {surplus : Json.Surplus} {initial : σ}
    {finish : (Nat → DecodeError) → σ → Except DecodeError α} {j : Json} {a : α}
    (hfields : shape.fields.Nodup) (h : shape.read surplus set initial finish j = .ok a) :
    ((shape.entries j).map (·.1)).Nodup ∧
      (∀ name ∈ (shape.entries j).map (·.1), name ∈ shape.fields) ∧
      ∃ missing state, setAll set initial (shape.entries j) = .ok state ∧
        finish missing state = .ok a := by
  cases j with
  | object entries =>
    rw [read] at h
    split at h
    · rename_i state hstate
      obtain ⟨hnodup, hnames, hall⟩ := readEntries_eq_ok hstate
      exact ⟨hnodup, fun name hname => (hnames name hname).1, _, state, hall, h⟩
    · cases h
  | array items =>
    rw [read] at h
    split at h
    · cases h
    · rename_i state hstate
      rw [readItems_eq_setAll] at hstate
      have hsub := map_fst_zip_sublist shape.fields items
      refine ⟨hsub.nodup hfields, fun name hname => hsub.mem hname, shape.tooShort, state, hstate,
        ?_⟩
      split at h
      · cases h
      · split at h
        · cases h
        · rename_i b hfinish _
          rw [hfinish]
          exact h
  | _ => cases h

theorem exists_set_of_setAll {state final : σ} {entries : List (String × Json)}
    (h : setAll set state entries = .ok final) {e : String × Json} (he : e ∈ entries) :
    ∃ before after, set e.1 e.2 before = .ok after := by
  induction entries generalizing state with
  | nil => cases he
  | cons entry rest ih =>
    obtain ⟨name, j⟩ := entry
    rw [setAll] at h
    split at h
    · rename_i next hset
      rcases List.mem_cons.mp he with rfl | he
      · exact ⟨state, next, hset⟩
      · exact ih h he
    · cases h

theorem exists_set_of_read_object {surplus : Json.Surplus} {initial : σ}
    {finish : (Nat → DecodeError) → σ → Except DecodeError α} {entries : List (String × Json)}
    {a : α}
    (h : shape.read surplus set initial finish (.object entries) = .ok a) {e : String × Json}
    (he : e ∈ entries) : e.1 ∈ shape.fields ∧ ∃ before after, set e.1 e.2 before = .ok after := by
  rw [read] at h
  split at h
  · rename_i state hstate
    obtain ⟨_, hnames, hall⟩ := readEntries_eq_ok hstate
    exact ⟨(hnames e.1 (List.mem_map_of_mem he)).1, exists_set_of_setAll hall he⟩
  · cases h

theorem length_of_read_array {surplus : Json.Surplus} {initial : σ}
    {finish : (Nat → DecodeError) → σ → Except DecodeError α} {items : List Json} {a : α}
    (h : shape.read surplus set initial finish (.array items) = .ok a) :
    items.length ≤ shape.fields.length := by
  rw [read] at h
  split at h
  · cases h
  · split at h
    · cases h
    · split at h
      · cases h
      · rename_i hlength
        exact Nat.not_lt.mp hlength

theorem exists_set_of_read_array {surplus : Json.Surplus} {initial : σ}
    {finish : (Nat → DecodeError) → σ → Except DecodeError α} {items : List Json} {a : α}
    (hfields : shape.fields.Nodup)
    (h : shape.read surplus set initial finish (.array items) = .ok a)
    {i : Nat} {j : Json} (hi : items[i]? = some j) :
    ∃ name, shape.fields[i]? = some name ∧ ∃ before after, set name j before = .ok after := by
  obtain ⟨_, _, _, state, hall, _⟩ := read_eq_ok hfields h
  have hbound : i < shape.fields.length :=
    Nat.lt_of_lt_of_le (List.getElem?_eq_some_iff.mp hi).1 (length_of_read_array h)
  have hname : shape.fields[i]? = some shape.fields[i] :=
    List.getElem?_eq_getElem _
  refine ⟨_, hname, exists_set_of_setAll hall (e := (_, j)) ?_⟩
  exact List.mem_of_getElem? (List.getElem?_zip_eq_some.mpr ⟨hname, hi⟩)

/-- Setting the fields of a shape reads a part of the state from the value of one field, and leaves
that part alone otherwise. -/
def Sets (shape : RecordShape) (set : String → Json → σ → Except DecodeError σ) (name : String)
    (part : σ → β) (decode : Json → Except DecodeError β) : Prop :=
  ∀ n ∈ shape.fields, ∀ j state next, set n j state = .ok next →
    if n = name then decode j = .ok (part next) else part next = part state

/-- What a part of the state is after reading: read from the value of its field, or as it was. -/
def ReadFrom (decode : Json → Except DecodeError β) (initial : β) : Option Json → β → Prop
  | some j, final => decode j = .ok final
  | none, final => final = initial

theorem ReadFrom.exists_of_some {decode : Json → Except DecodeError β} {j? : Option Json} {b : β}
    (h : ReadFrom (fun j => (decode j).map some) none j? (some b)) :
    ∃ j, j? = some j ∧ decode j = .ok b := by
  cases j? with
  | none => cases h
  | some j =>
    obtain ⟨a, ha, hsome⟩ := map_eq_ok h
    exact ⟨j, rfl, Option.some.inj hsome ▸ ha⟩

theorem setAll_part {name : String} {part : σ → β} {decode : Json → Except DecodeError β}
    (hsets : shape.Sets set name part decode) {entries : List (String × Json)}
    (hnodup : (entries.map (·.1)).Nodup) (hfields : ∀ n ∈ entries.map (·.1), n ∈ shape.fields)
    {state final : σ} (h : setAll set state entries = .ok final) :
    ReadFrom decode (part state) (entries.lookup name) (part final) := by
  induction entries generalizing state with
  | nil => cases h; rfl
  | cons entry rest ih =>
    obtain ⟨n, j⟩ := entry
    obtain ⟨hn, hnodup⟩ := List.nodup_cons.mp hnodup
    obtain ⟨hfield, hfields⟩ := List.forall_mem_cons.mp hfields
    rw [setAll] at h
    split at h
    · rename_i next hset
      have hrest := ih hnodup hfields h
      have hstep := hsets n hfield j state next hset
      by_cases hname : n = name
      · subst hname
        rw [if_pos rfl] at hstep
        -- No later entry has this name, so the part stays what this entry sets it to.
        have habsent : rest.lookup n = none := by
          rw [List.lookup_eq_none_iff]
          intro entry hmem
          exact bne_iff_ne.mpr fun hsame => hn (List.mem_map.mpr ⟨entry, hmem, hsame.symm⟩)
        rw [habsent] at hrest
        rw [List.lookup_cons_self]
        exact hstep.trans (congrArg _ hrest.symm)
      · rw [if_neg hname] at hstep
        rw [List.lookup_cons, beq_eq_false_iff_ne.mpr (Ne.symm hname), ← hstep]
        exact hrest
    · cases h

/-- Reading a record reads every part of the state from the value of its field. -/
theorem read_part {surplus : Json.Surplus} {initial : σ}
    {finish : (Nat → DecodeError) → σ → Except DecodeError α} {j : Json} {a : α}
    (hfields : shape.fields.Nodup) (h : shape.read surplus set initial finish j = .ok a) :
    ∃ missing state, finish missing state = .ok a ∧
      ∀ {β : Type} {name : String} {part : σ → β} {decode : Json → Except DecodeError β},
        shape.Sets set name part decode →
          ReadFrom decode (part initial) (shape.field? name j) (part state) := by
  obtain ⟨hnodup, hnames, missing, state, hall, hfinish⟩ := read_eq_ok hfields h
  exact ⟨missing, state, hfinish, fun hsets => setAll_part hsets hnodup hnames hall⟩

end RecordShape

end Gleaner
