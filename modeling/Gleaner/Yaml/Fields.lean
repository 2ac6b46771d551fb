import Gleaner.Yaml.Decode
/-!
# Records whose fields have numbers

A tree without tags gives a record: a mapping, where a key is the name of a field or the number of
its place, or a sequence of the fields in order. The value of a field is smaller than the record,
which is what reading nested records rests on.
-/
namespace Gleaner.Yaml

theorem sizeOf_lt_of_mem {σ : Type} {k v : Yaml σ} {entries : List (Yaml σ × Yaml σ)}
    (h : (k, v) ∈ entries) : sizeOf v < sizeOf entries := by
  have := List.sizeOf_lt_of_mem h
  simp only [Prod.mk.sizeOf_spec] at this
  omega

variable {σ : Type} [Legible σ]

def string? : Yaml σ → Option String
  | .scalar s => match Legible.atom? s with
    | some (.string t) => some t
    | _ => none
  | _ => none

def strings? : Yaml σ → Option (List String)
  | .sequence items => items.mapM string?
  | _ => none

def bool? : Yaml σ → Option Bool
  | .scalar s => match Legible.atom? s with
    | some (.bool b) => some b
    | _ => none
  | _ => none

/-- A name as it is given, or the one that a number stands for. A number past the last name stands
for none of them. -/
def name? (names : List String) : Yaml σ → Option String
  | .scalar s => match Legible.keyAtom? s with
    | some (.string t) => some t
    | some (.int n) => if 0 ≤ n then some (names.getD n.toNat "") else none
    | _ => none
  | _ => none

/-- The entries under the names of the given fields, none of which may come twice. -/
def namedEntries? (fields : List String) : List (Yaml σ × Yaml σ) → Option (List (String × Yaml σ))
  | [] => some []
  | (k, y) :: rest => match name? fields k, namedEntries? fields rest with
    | some name, some named =>
      if !fields.contains name then some named
      else if (named.lookup name).isSome then none
      else some ((name, y) :: named)
    | _, _ => none

/-- The fields of a record. Other names are passed over. -/
def fields? (fields : List String) : Yaml σ → Option (List (String × Yaml σ))
  | .mapping entries => namedEntries? fields entries
  | .sequence items => if fields.length < items.length then none else some (fields.zip items)
  | _ => none

def closedFields? (fields : List String) (y : Yaml σ) : Option (List (String × Yaml σ)) :=
  match y with
  | .mapping entries =>
    if entries.all fun e => (name? fields e.1).any fields.contains then fields? fields y
    else none
  | _ => fields? fields y

def only? (field : String) (y : Yaml σ) : Option (Yaml σ) :=
  match fields? [field] y with
  | some [(_, v)] => some v
  | _ => none

theorem mem_of_named {fields : List String} {entries : List (Yaml σ × Yaml σ)}
    {named : List (String × Yaml σ)} (h : namedEntries? fields entries = some named)
    {p : String × Yaml σ} (hp : p ∈ named) : ∃ k, (k, p.2) ∈ entries := by
  induction entries generalizing named with
  | nil => simp_all [namedEntries?]
  | cons e rest ih =>
    obtain ⟨k, y⟩ := e
    simp only [namedEntries?] at h
    split at h
    · rename_i name tail _ htail
      have later (hp : p ∈ tail) : ∃ k', (k', p.2) ∈ (k, y) :: rest :=
        (ih htail hp).imp fun _ hm => List.mem_cons_of_mem _ hm
      split at h
      · cases h
        exact later hp
      · split at h
        · simp at h
        · cases h
          rcases List.mem_cons.1 hp with rfl | hp
          · exact ⟨k, by simp⟩
          · exact later hp
    · simp at h

theorem sizeOf_only {field : String} {y v : Yaml σ} (h : only? field y = some v) :
    sizeOf v < sizeOf y := by
  simp only [only?] at h
  split at h
  · rename_i name w hf
    cases h
    cases y with
    | mapping entries =>
      obtain ⟨k, hk⟩ := mem_of_named (p := (name, v)) hf (by simp)
      have : sizeOf v < sizeOf entries := sizeOf_lt_of_mem hk
      simp only [Yaml.mapping.sizeOf_spec]
      omega
    | sequence items =>
      simp only [fields?] at hf
      split at hf
      · simp at hf
      · cases items with
        | nil => simp at hf
        | cons x rest =>
          simp only [List.zip_cons_cons, List.zip_nil_left, Option.some.injEq, List.cons.injEq,
            Prod.mk.injEq, and_true] at hf
          obtain ⟨-, rfl⟩ := hf
          simp only [Yaml.sequence.sizeOf_spec, List.cons.sizeOf_spec]
          omega
    | scalar _ => simp [fields?] at hf
    | tagged _ _ => simp [fields?] at hf
  · simp at h

end Gleaner.Yaml
