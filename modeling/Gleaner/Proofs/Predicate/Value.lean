import Gleaner.Predicate.Value
/-!
# What values and tables accept

Sorting a list of values and leaving out repetitions changes nothing about which texts are in it,
and a list without repetitions is sorted with each text below the next. A table that is made of two
lists has the verdict of the last list that a text is in.
-/
namespace Gleaner

def withoutRepeats (texts : List String) : List String :=
  texts.foldr (fun s rest => match rest with
    | [] => [s]
    | t :: _ => if s == t then rest else s :: rest) []

theorem mem_withoutRepeats {s : String} {texts : List String} :
    s ∈ withoutRepeats texts ↔ s ∈ texts := by
  induction texts with
  | nil => rfl
  | cons t rest ih =>
    rw [withoutRepeats, List.foldr_cons, ← withoutRepeats, List.mem_cons, ← ih]
    split
    · rename_i hrest
      rw [hrest, List.mem_singleton]
      simp
    · rename_i u us hrest
      rw [hrest]
      by_cases htu : t = u <;> simp [htu]

theorem mem_sorted {s : String} {texts : List String} : s ∈ sorted texts ↔ s ∈ texts :=
  List.mem_mergeSort

theorem pairwise_sorted (texts : List String) : (sorted texts).Pairwise (· ≤ ·) := by
  have htrans : ∀ s t u : String, decide (s ≤ t) = true → decide (t ≤ u) = true →
      decide (s ≤ u) = true := by
    simpa using fun s t u => String.le_trans
  have htotal : ∀ s t : String, (decide (s ≤ t) || decide (t ≤ s)) = true := by
    simpa using String.le_total
  exact (List.pairwise_mergeSort htrans htotal texts).imp of_decide_eq_true

theorem pairwise_lt_sorted {texts : List String} (h : texts.Nodup) :
    (sorted texts).Pairwise (· < ·) := by
  have hnodup : (sorted texts).Nodup := (List.mergeSort_perm texts _).nodup_iff.mpr h
  exact (pairwise_sorted texts).imp₂ (fun _ _ hle hne => Std.lt_of_le_of_ne hle hne) hnodup

theorem mem_sortedDistinct {s : String} {texts : List String} :
    s ∈ sortedDistinct texts ↔ s ∈ texts :=
  mem_withoutRepeats.trans mem_sorted

theorem ValidValues.accepts_ofList (values : List String) (text : String) :
    (ofList values).accepts text = values.contains text := by
  rw [Bool.eq_iff_iff, accepts, ofList, List.contains_iff_mem, List.contains_iff_mem,
    mem_sortedDistinct]

theorem lookup_cons_ite {α : Type} (name k : String) (v : α) (rest : List (String × α)) :
    ((k, v) :: rest).lookup name = if name = k then some v else rest.lookup name := by
  rw [List.lookup_cons]
  by_cases h : name = k
  · simp [h]
  · simp [beq_eq_false_iff_ne.mpr h, h]

theorem lookup_isSome {α : Type} {entries : List (String × α)} {name : String} :
    (entries.lookup name).isSome = true ↔ name ∈ entries.map (·.1) := by
  induction entries with
  | nil => simp
  | cons entry rest ih =>
    obtain ⟨k, v⟩ := entry
    rw [lookup_cons_ite, List.map_cons, List.mem_cons, ← ih]
    by_cases h : name = k <;> simp [h]

theorem lookup_append_comm {α : Type} {front back : List (String × α)}
    (hnames : ∀ name ∈ front.map (·.1), name ∉ back.map (·.1)) (name : String) :
    (front ++ back).lookup name = (back ++ front).lookup name := by
  rw [List.lookup_append, List.lookup_append]
  by_cases hmem : name ∈ front.map (·.1)
  · have hnone : back.lookup name = none := by
      rw [← Option.not_isSome_iff_eq_none, lookup_isSome]
      exact hnames name hmem
    rw [hnone, Option.or_none, Option.none_or]
  · have hnone : front.lookup name = none := by
      rw [← Option.not_isSome_iff_eq_none, lookup_isSome]
      exact hmem
    rw [hnone, Option.or_none, Option.none_or]

/-- A function on entries that replaces the value of a name, or adds it at the end, sets what is
found under that name and nothing else. -/
theorem lookup_of_set {α : Type} {key : String} {value : α}
    (set : List (String × α) → List (String × α)) (hnil : set [] = [(key, value)])
    (hcons : ∀ k v rest, set ((k, v) :: rest) =
      if k == key then (k, value) :: rest else (k, v) :: set rest)
    (entries : List (String × α)) (name : String) :
    (set entries).lookup name = if name = key then some value else entries.lookup name := by
  induction entries with
  | nil => rw [hnil, lookup_cons_ite]
  | cons entry rest ih =>
    obtain ⟨k, v⟩ := entry
    rw [hcons]
    by_cases hk : k = key
    · subst hk
      rw [if_pos (beq_self_eq_true k), lookup_cons_ite, lookup_cons_ite]
      by_cases h : name = k <;> simp [h]
    · rw [if_neg (by simpa using hk), lookup_cons_ite, lookup_cons_ite, ih]
      by_cases h : name = k
      · simp [h, hk]
      · simp [h]

/-- Where each step sets what is found under one name, all steps together set what the last of them
sets under that name. -/
theorem get_foldl_set {σ α : Type} (get : σ → String → Option α) (set : σ → String × α → σ)
    (hset : ∀ s entry name,
      get (set s entry) name = if name = entry.1 then some entry.2 else get s name)
    (s : σ) (entries : List (String × α)) (name : String) :
    get (entries.foldl set s) name = (entries.reverse.lookup name).or (get s name) := by
  -- The first entry is the last of the reversed list, and is what the others build upon.
  induction entries generalizing s with
  | nil => rfl
  | cons entry rest ih =>
    obtain ⟨k, v⟩ := entry
    rw [List.foldl_cons, ih, hset, List.reverse_cons, List.lookup_append, Option.or_assoc,
      lookup_cons_ite, List.lookup_nil]
    by_cases h : name = k <;> simp [h]

namespace Lookup

theorem get?_set (table : Lookup) (text name : String) (verdict : Bool) :
    (table.set text verdict).get? name =
      if name = text then some verdict else table.get? name :=
  lookup_of_set (setEntry text verdict) rfl (fun _ _ _ => rfl) table.entries name

theorem get?_foldl_set (verdict : Bool) (texts : List String) (table : Lookup) (name : String) :
    (texts.foldl (fun table text => table.set text verdict) table).get? name =
      if name ∈ texts then some verdict else table.get? name := by
  induction texts generalizing table with
  | nil => simp
  | cons text rest ih =>
    rw [List.foldl_cons, ih, get?_set]
    by_cases hrest : name ∈ rest
    · simp [hrest]
    · by_cases htext : name = text <;> simp [hrest, htext]

theorem get?_ofLists (accepted rejected : List String) (name : String) :
    (ofLists accepted rejected).get? name =
      if name ∈ rejected then some false else if name ∈ accepted then some true else none := by
  have hreject := get?_foldl_set false rejected (accepted.foldl accept empty) name
  have haccept := get?_foldl_set true accepted empty name
  rw [ofLists, show reject = fun table text => table.set text false from rfl, hreject,
    show accept = fun table text => table.set text true from rfl, haccept]
  rfl

end Lookup

end Gleaner
