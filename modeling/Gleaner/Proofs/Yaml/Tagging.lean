import Gleaner.Yaml.Document
/-!
# Which tags documents may carry

A document has four tags, and each belongs on an untagged value of its own form. `Readable` says
which values are documents, without the order in which they are read, and `TagUse.Proper` what a tag
should be like. The two do not agree: reading looks through the tags on keys, on bytes, and beneath
the tags for symbols and nulls, and through any number of marks in front of a name. Those tags are
the `unseenTags` of a value, and a document has none of them exactly if all of its tags are proper.
-/
namespace Gleaner

theorem Kind.ofName?_eq_some {s : String} {k : Kind} : ofName? s = some k ↔ s = k.name := by
  constructor
  · intro h
    unfold ofName? at h
    split at h <;> cases h <;> rfl
  · rintro rfl
    cases k <;> rfl

namespace DocumentTag

def shown (meant : DocumentTag) : String := "!" ++ meant.name

/-- What a tag should stand in front of: a text, a sequence, the name of a kind, or bytes. -/
def Fits : DocumentTag → Yaml.Value → Prop
  | .symbol, y => ∃ s, y = .scalar (.string s)
  | .sexp, y => ∃ items, y = .sequence items
  | .null, y => ∃ k : Kind, y = .scalar (.string k.name)
  | .bytes, y => ∃ items, y = .sequence items ∧
    ∀ item ∈ items, ∃ b : UInt8, item = .scalar (.int b.toNat)

theorem mem_all (meant : DocumentTag) : meant ∈ all := by
  cases meant <;> decide

theorem ofTag?_of_shown {tag : String} {meant : DocumentTag} (h : Yaml.shownTag tag = meant.shown) :
    ofTag? tag = some meant := by
  rw [ofTag?, h]
  cases meant <;> rfl

end DocumentTag

namespace Yaml.Value

@[elab_as_elim]
theorem induction {motive : Value → Prop} (scalar : ∀ a, motive (.scalar a))
    (sequence : ∀ items, (∀ y ∈ items, motive y) → motive (.sequence items))
    (mapping : ∀ entries, (∀ e ∈ entries, motive e.2) → motive (.mapping entries))
    (tagged : ∀ tag y, motive y → motive (.tagged tag y)) (y : Value) : motive y := by
  match y with
  | .scalar a => exact scalar a
  | .sequence items =>
    exact sequence items fun y _ => induction scalar sequence mapping tagged y
  | .mapping entries =>
    exact mapping entries fun e _ => induction scalar sequence mapping tagged e.2
  | .tagged tag y => exact tagged tag y (induction scalar sequence mapping tagged y)
termination_by sizeOf y
decreasing_by
  · have := List.sizeOf_lt_of_mem ‹y ∈ items›
    simp only [Yaml.sequence.sizeOf_spec]
    omega
  · have := List.sizeOf_lt_of_mem ‹e ∈ entries›
    obtain ⟨k, v⟩ := e
    simp only [Prod.mk.sizeOf_spec, Yaml.mapping.sizeOf_spec] at this ⊢
    omega
  · simp only [Yaml.tagged.sizeOf_spec]
    omega

/-- The tags around a value, the outermost first. -/
def outerTags : Value → List String
  | .tagged tag y => tag :: outerTags y
  | _ => []

theorem untag_of_outerTags {y : Value} (h : y.outerTags = []) : y.untag = y := by
  cases y with
  | tagged tag y => cases h
  | _ => rfl

theorem text?_eq_some {y : Value} {s : String} :
    y.text? = some s ↔ y.untag = .scalar (.string s) := by
  rw [text?]
  split
  · rename_i t ht
    rw [ht]
    simp
  · rename_i hne
    exact ⟨nofun, fun h => absurd h (hne s)⟩

theorem byte?_eq_some {y : Value} {b : UInt8} :
    y.byte? = some b ↔ y.untag = .scalar (.int b.toNat) := by
  rw [byte?]
  split
  · rename_i n hn
    rw [hn, scalar.injEq, Atom.int.injEq]
    constructor
    · intro h
      split at h
      · cases h
        rename_i hrange
        rw [UInt8.toNat_ofNat', Nat.mod_eq_of_lt (by omega)]
        omega
      · cases h
    · rintro rfl
      have := b.toNat_lt
      rw [if_pos (by omega), Int.toNat_natCast, UInt8.ofNat_toNat]
  · rename_i hne
    exact ⟨nofun, fun h => absurd h (hne _)⟩

/-- The values that are documents, whatever stands where reading does not look. -/
inductive Readable : Value → Prop
  | scalar (a : Atom) : Readable (.scalar a)
  | sequence {items : List Value} (parts : ∀ y ∈ items, Readable y) : Readable (.sequence items)
  | mapping {entries : List (Value × Value)}
      (keys : ∀ e ∈ entries, ∃ name, e.1.untag = .scalar (.string name))
      (values : ∀ e ∈ entries, Readable e.2) : Readable (.mapping entries)
  | symbol {tag : String} {y : Value} {s : String} (meant : DocumentTag.ofTag? tag = some .symbol)
      (text : y.untag = .scalar (.string s)) : Readable (.tagged tag y)
  | sexp {tag : String} {items : List Value} (meant : DocumentTag.ofTag? tag = some .sexp)
      (part : Readable (.sequence items)) : Readable (.tagged tag (.sequence items))
  | null {tag : String} {y : Value} {k : Kind} (meant : DocumentTag.ofTag? tag = some .null)
      (name : y.untag = .scalar (.string k.name)) : Readable (.tagged tag y)
  | bytes {tag : String} {items : List Value} (meant : DocumentTag.ofTag? tag = some .bytes)
      (parts : ∀ y ∈ items, ∃ b : UInt8, y.untag = .scalar (.int b.toNat)) :
      Readable (.tagged tag (.sequence items))

theorem mapM_byte?_isSome {items : List Value} : (∃ bytes, items.mapM byte? = some bytes) ↔
    ∀ y ∈ items, ∃ b : UInt8, y.untag = .scalar (.int b.toNat) := by
  induction items with
  | nil => simp
  | cons y rest ih =>
    rw [List.forall_mem_cons, ← ih, List.mapM_cons]
    constructor
    · rintro ⟨bytes, h⟩
      obtain ⟨b, hb, h⟩ := Option.bind_eq_some_iff.mp h
      obtain ⟨bs, hbs, _⟩ := Option.bind_eq_some_iff.mp h
      exact ⟨⟨b, byte?_eq_some.mp hb⟩, bs, hbs⟩
    · rintro ⟨⟨b, hb⟩, bs, hbs⟩
      exact ⟨b :: bs, by rw [byte?_eq_some.mpr hb, hbs]; rfl⟩

theorem toNodes_isOk {items : List Value} : (∃ nodes, toNodes items = .ok nodes) ↔
    ∀ y ∈ items, ∃ node, y.toNode = .ok node := by
  induction items with
  | nil => simp [toNodes]
  | cons y rest ih =>
    rw [List.forall_mem_cons, ← ih, toNodes]
    cases y.toNode with
    | error e => simp
    | ok node => cases toNodes rest <;> simp

theorem toFields_isOk {entries : List (Value × Value)} :
    (∃ fields, toFields entries = .ok fields) ↔ ∀ e ∈ entries,
      (∃ name, e.1.untag = .scalar (.string name)) ∧ ∃ node, toNode e.2 = .ok node := by
  simp only [← text?_eq_some]
  induction entries with
  | nil => simp [toFields]
  | cons e rest ih =>
    obtain ⟨k, y⟩ := e
    rw [List.forall_mem_cons, ← ih, toFields]
    cases text? k with
    | none => simp
    | some name =>
      cases toNode y with
      | error e => simp
      | ok node => cases toFields rest <;> simp

theorem sequence_isOk {items : List Value} :
    (∃ node, toNode (.sequence items) = .ok node) ↔ ∀ y ∈ items, ∃ node, toNode y = .ok node := by
  rw [← toNodes_isOk, toNode]
  cases toNodes items <;> simp

theorem mapping_isOk {entries : List (Value × Value)} :
    (∃ node, toNode (.mapping entries) = .ok node) ↔ ∀ e ∈ entries,
      (∃ name, e.1.untag = .scalar (.string name)) ∧ ∃ node, toNode e.2 = .ok node := by
  rw [← toFields_isOk, toNode]
  cases toFields entries <;> simp

variable {tag : String} {y : Value}

theorem toNode_unknown (h : DocumentTag.ofTag? tag = none) :
    toNode (.tagged tag y) = .error (.unknownTag (shownTag tag)) := by
  cases y with
  | sequence items => rw [toNode, h]
  | _ =>
    rw [toNode, h]
    exact nofun

theorem toNode_leaf {meant : DocumentTag} (h : DocumentTag.ofTag? tag = some meant)
    (hleaf : meant ≠ .sexp) : toNode (.tagged tag y) = taggedLeaf tag y meant := by
  cases y with
  | sequence items =>
    rw [toNode, h]
    cases meant with
    | sexp => exact absurd rfl hleaf
    | _ => rfl
  | _ =>
    rw [toNode, h]
    exact nofun

theorem sexp_isOk (h : DocumentTag.ofTag? tag = some .sexp) :
    (∃ node, toNode (.tagged tag y) = .ok node) ↔
      ∃ items, y = .sequence items ∧ ∃ node, toNode (.sequence items) = .ok node := by
  cases y with
  | sequence items =>
    simp only [sequence.injEq, exists_eq_left', toNode, h]
    cases toNodes items <;> simp
  | _ =>
    rw [toNode, h]
    · simp [taggedLeaf]
    · exact nofun

theorem symbol_isOk (h : DocumentTag.ofTag? tag = some .symbol) :
    (∃ node, toNode (.tagged tag y) = .ok node) ↔ ∃ s, y.untag = .scalar (.string s) := by
  simp only [← text?_eq_some, toNode_leaf h nofun, taggedLeaf]
  cases y.text? <;> simp

theorem null_isOk (h : DocumentTag.ofTag? tag = some .null) :
    (∃ node, toNode (.tagged tag y) = .ok node) ↔
      ∃ k : Kind, y.untag = .scalar (.string k.name) := by
  simp only [← text?_eq_some, toNode_leaf h nofun, taggedLeaf]
  cases y.text? with
  | none => simp
  | some name =>
    simp only [Option.some.injEq, ← Kind.ofName?_eq_some]
    cases Kind.ofName? name <;> simp

theorem bytes_isOk (h : DocumentTag.ofTag? tag = some .bytes) :
    (∃ node, toNode (.tagged tag y) = .ok node) ↔ ∃ items, y = .sequence items ∧
      ∀ item ∈ items, ∃ b : UInt8, item.untag = .scalar (.int b.toNat) := by
  simp only [← mapM_byte?_isSome, toNode_leaf h nofun]
  cases y with
  | sequence items =>
    simp only [taggedLeaf, sequence.injEq, exists_eq_left']
    cases items.mapM byte? <;> simp
  | _ => simp [taggedLeaf]

/-- Exactly the readable values are documents. -/
theorem toNode_isOk_iff (y : Value) : (∃ node, y.toNode = .ok node) ↔ y.Readable := by
  constructor
  · intro h
    induction y using induction with
    | scalar a => exact .scalar a
    | sequence items ih =>
      have hitems := sequence_isOk.mp h
      exact .sequence fun y hy => ih y hy (hitems y hy)
    | mapping entries ih =>
      have hentries := mapping_isOk.mp h
      exact .mapping (fun e he => (hentries e he).1) fun e he => ih e he (hentries e he).2
    | tagged tag y ih =>
      cases htag : DocumentTag.ofTag? tag with
      | none =>
        obtain ⟨node, hnode⟩ := h
        cases (toNode_unknown htag).symm.trans hnode
      | some meant =>
        cases meant with
        | symbol =>
          obtain ⟨s, hs⟩ := (symbol_isOk htag).mp h
          exact .symbol htag hs
        | sexp =>
          obtain ⟨items, rfl, hitems⟩ := (sexp_isOk htag).mp h
          exact .sexp htag (ih hitems)
        | null =>
          obtain ⟨k, hk⟩ := (null_isOk htag).mp h
          exact .null htag hk
        | bytes =>
          obtain ⟨items, rfl, hitems⟩ := (bytes_isOk htag).mp h
          exact .bytes htag hitems
  · intro h
    induction h with
    | scalar a => exact ⟨_, by rw [toNode]⟩
    | sequence parts ih => exact sequence_isOk.mpr ih
    | mapping keys values ih => exact mapping_isOk.mpr fun e he => ⟨keys e he, ih e he⟩
    | symbol meant text => exact (symbol_isOk meant).mpr ⟨_, text⟩
    | sexp meant part ih => exact (sexp_isOk meant).mpr ⟨_, rfl, ih⟩
    | null meant name => exact (null_isOk meant).mpr ⟨_, name⟩
    | bytes meant parts => exact (bytes_isOk meant).mpr ⟨_, rfl, parts⟩

/-- A tag where it is used: whether that is within a key of a mapping, and what the tag stands in
front of. -/
structure TagUse where
  inKey : Bool
  tag : String
  value : Value

/-- A tag is proper if it is one of the four as it is shown, stands in front of an untagged value of
its own form, and is no part of a key. -/
def TagUse.Proper (u : TagUse) : Prop :=
  u.inKey = false ∧ ∃ meant : DocumentTag, shownTag u.tag = meant.shown ∧ meant.Fits u.value

mutual
/-- All uses of tags in a value, keys included. -/
def tagUses (inKey : Bool) : Value → List TagUse
  | .scalar _ => []
  | .sequence items => tagUsesItems inKey items
  | .mapping entries => tagUsesEntries inKey entries
  | .tagged tag y => ⟨inKey, tag, y⟩ :: tagUses inKey y
def tagUsesItems (inKey : Bool) : List Value → List TagUse
  | [] => []
  | y :: rest => tagUses inKey y ++ tagUsesItems inKey rest
def tagUsesEntries (inKey : Bool) : List (Value × Value) → List TagUse
  | [] => []
  | (k, y) :: rest => tagUses true k ++ tagUses inKey y ++ tagUsesEntries inKey rest
end

theorem mem_tagUsesItems {inKey : Bool} {items : List Value} {u : TagUse} :
    u ∈ tagUsesItems inKey items ↔ ∃ y ∈ items, u ∈ tagUses inKey y := by
  induction items with
  | nil => simp [tagUsesItems]
  | cons y rest ih => simp [tagUsesItems, ih]

theorem mem_tagUsesEntries {inKey : Bool} {entries : List (Value × Value)} {u : TagUse} :
    u ∈ tagUsesEntries inKey entries ↔
      ∃ e ∈ entries, u ∈ tagUses true e.1 ∨ u ∈ tagUses inKey e.2 := by
  induction entries with
  | nil => simp [tagUsesEntries]
  | cons e rest ih =>
    obtain ⟨k, y⟩ := e
    simp [tagUsesEntries, ih, or_assoc]

/-- A tag, unless it is shown as one of the four. -/
def misspelt (tag : String) : List String :=
  if ∃ meant ∈ DocumentTag.all, shownTag tag = meant.shown then [] else [tag]

/-- The tags around the items of a sequence. -/
def itemTags : Value → List String
  | .sequence items => items.flatMap outerTags
  | _ => []

mutual
/-- The tags that reading a document does not see as they are: those around keys, around bytes, and
beneath the tag of a symbol or a null, and those that differ from one of the four by their marks. -/
def unseenTags : Value → List String
  | .scalar _ => []
  | .sequence items => unseenItems items
  | .mapping entries => unseenEntries entries
  | .tagged tag y => misspelt tag ++ match DocumentTag.ofTag? tag with
    | some .symbol => outerTags y
    | some .null => outerTags y
    | some .bytes => itemTags y
    | some .sexp => unseenTags y
    | none => []
def unseenItems : List Value → List String
  | [] => []
  | y :: rest => unseenTags y ++ unseenItems rest
def unseenEntries : List (Value × Value) → List String
  | [] => []
  | (k, y) :: rest => outerTags k ++ unseenTags y ++ unseenEntries rest
end

theorem unseenItems_eq_nil {items : List Value} :
    unseenItems items = [] ↔ ∀ y ∈ items, unseenTags y = [] := by
  induction items with
  | nil => simp [unseenItems]
  | cons y rest ih => simp [unseenItems, ih]

theorem unseenEntries_eq_nil {entries : List (Value × Value)} :
    unseenEntries entries = [] ↔ ∀ e ∈ entries, outerTags e.1 = [] ∧ unseenTags e.2 = [] := by
  induction entries with
  | nil => simp [unseenEntries]
  | cons e rest ih =>
    obtain ⟨k, y⟩ := e
    rw [unseenEntries, List.append_eq_nil_iff, List.append_eq_nil_iff, ih, List.forall_mem_cons]

theorem misspelt_of_shown {meant : DocumentTag} (h : shownTag tag = meant.shown) :
    misspelt tag = [] :=
  if_pos ⟨meant, meant.mem_all, h⟩

theorem shown_of_misspelt {meant : DocumentTag} (h : misspelt tag = [])
    (hmeant : DocumentTag.ofTag? tag = some meant) : shownTag tag = meant.shown := by
  rw [misspelt] at h
  split at h
  · rename_i hshown
    obtain ⟨other, _, hother⟩ := hshown
    cases hmeant.symm.trans (DocumentTag.ofTag?_of_shown hother)
    exact hother
  · cases h

theorem outerTags_of_proper {k : Value} (h : ∀ u ∈ tagUses true k, u.Proper) :
    outerTags k = [] := by
  cases k with
  | tagged tag y =>
    rw [tagUses] at h
    cases (h _ List.mem_cons_self).1
  | _ => rfl

/-- If all tags are proper, reading sees all of them. -/
theorem unseenTags_of_proper {y : Value} (h : ∀ u ∈ tagUses false y, u.Proper) :
    unseenTags y = [] := by
  induction y using induction with
  | scalar a => rw [unseenTags]
  | sequence items ih =>
    rw [tagUses] at h
    rw [unseenTags, unseenItems_eq_nil]
    exact fun y hy => ih y hy fun u hu => h u (mem_tagUsesItems.mpr ⟨y, hy, hu⟩)
  | mapping entries ih =>
    rw [tagUses] at h
    rw [unseenTags, unseenEntries_eq_nil]
    intro e he
    have huses : ∀ u, u ∈ tagUses true e.1 ∨ u ∈ tagUses false e.2 → u.Proper :=
      fun u hu => h u (mem_tagUsesEntries.mpr ⟨e, he, hu⟩)
    exact ⟨outerTags_of_proper fun u hu => huses u (.inl hu), ih e he fun u hu => huses u (.inr hu)⟩
  | tagged tag y ih =>
    rw [tagUses] at h
    obtain ⟨⟨_, meant, hshown, hfits⟩, hrest⟩ := List.forall_mem_cons.mp h
    rw [unseenTags, misspelt_of_shown hshown, DocumentTag.ofTag?_of_shown hshown]
    -- only a sequence has parts that are read in their turn; the others are of atoms
    cases meant with
    | symbol =>
      obtain ⟨s, rfl⟩ := hfits
      rfl
    | sexp => exact ih hrest
    | null =>
      obtain ⟨k, rfl⟩ := hfits
      rfl
    | bytes =>
      obtain ⟨items, rfl, hitems⟩ := hfits
      refine List.flatMap_eq_nil_iff.mpr fun item hitem => ?_
      obtain ⟨b, rfl⟩ := hitems item hitem
      rfl

/-- A known tag is proper if reading sees it as it is and its value has its form; the tags within
the value are proper then if they are on their own. -/
theorem proper_of_fits {meant : DocumentTag} (hmeant : DocumentTag.ofTag? tag = some meant)
    (hspelling : misspelt tag = []) (hfits : meant.Fits y)
    (hrest : ∀ u ∈ tagUses false y, u.Proper) : ∀ u ∈ tagUses false (.tagged tag y), u.Proper := by
  rw [tagUses]
  exact List.forall_mem_cons.mpr ⟨⟨rfl, meant, shown_of_misspelt hspelling hmeant, hfits⟩, hrest⟩

theorem tagUses_scalar (a : Atom) : ∀ u ∈ tagUses false (.scalar a), u.Proper := by
  simp [tagUses]

/-- If reading sees all tags of a document, they are proper. -/
theorem proper_of_unseenTags {y : Value} (h : Readable y) (hunseen : unseenTags y = []) :
    ∀ u ∈ tagUses false y, u.Proper := by
  induction h with
  | scalar a => exact tagUses_scalar a
  | sequence parts ih =>
    rw [unseenTags, unseenItems_eq_nil] at hunseen
    intro u hu
    rw [tagUses, mem_tagUsesItems] at hu
    obtain ⟨y, hy, hu⟩ := hu
    exact ih y hy (hunseen y hy) u hu
  | mapping keys values ih =>
    rw [unseenTags, unseenEntries_eq_nil] at hunseen
    intro u hu
    rw [tagUses, mem_tagUsesEntries] at hu
    obtain ⟨e, he, hu⟩ := hu
    rcases hu with hkey | hvalue
    · -- with no tag around it the key is the very text that is read, which has no tags
      obtain ⟨name, hname⟩ := keys e he
      rw [← untag_of_outerTags (hunseen e he).1, hname, tagUses] at hkey
      cases hkey
    · exact ih e he (hunseen e he).2 u hvalue
  | symbol meant text =>
    rw [unseenTags, List.append_eq_nil_iff, meant] at hunseen
    rw [untag_of_outerTags hunseen.2] at text
    rw [text]
    exact proper_of_fits meant hunseen.1 ⟨_, rfl⟩ (tagUses_scalar _)
  | sexp meant part ih =>
    rw [unseenTags, List.append_eq_nil_iff, meant] at hunseen
    exact proper_of_fits meant hunseen.1 ⟨_, rfl⟩ (ih hunseen.2)
  | null meant name =>
    rw [unseenTags, List.append_eq_nil_iff, meant] at hunseen
    rw [untag_of_outerTags hunseen.2] at name
    rw [name]
    exact proper_of_fits meant hunseen.1 ⟨_, rfl⟩ (tagUses_scalar _)
  | @bytes tag items meant parts =>
    rw [unseenTags, List.append_eq_nil_iff, meant] at hunseen
    have hbytes : ∀ item ∈ items, ∃ b : UInt8, item = .scalar (.int b.toNat) := by
      intro item hitem
      obtain ⟨b, hb⟩ := parts item hitem
      have huntagged := untag_of_outerTags (List.flatMap_eq_nil_iff.mp hunseen.2 item hitem)
      exact ⟨b, huntagged.symm.trans hb⟩
    refine proper_of_fits meant hunseen.1 ⟨_, rfl, hbytes⟩ fun u hu => ?_
    rw [tagUses, mem_tagUsesItems] at hu
    obtain ⟨item, hitem, hu⟩ := hu
    obtain ⟨b, rfl⟩ := hbytes item hitem
    exact tagUses_scalar _ u hu

/-- The readable values are the documents, and the tags of a value are proper where it is a
document, exactly if a readable value has no tags that reading does not see. -/
theorem tags_proper_iff (v : Value) :
    ((∃ node, v.toNode = .ok node) ↔ v.Readable) ∧
      ((∀ node, v.toNode = .ok node → ∀ u ∈ v.tagUses false, u.Proper) ↔
        (v.Readable → v.unseenTags = [])) := by
  refine ⟨toNode_isOk_iff v, ?_, ?_⟩
  · intro h hreadable
    obtain ⟨node, hnode⟩ := (toNode_isOk_iff v).mpr hreadable
    exact unseenTags_of_proper (h node hnode)
  · intro h node hnode
    have hreadable := (toNode_isOk_iff v).mp ⟨node, hnode⟩
    exact proper_of_unseenTags hreadable (h hreadable)

/-- A mapping with a tag on its key is a document, and nothing of the tag is left in it. -/
theorem toNode_tagged_key :
    let v : Value := .mapping [(.tagged "foo" (.scalar (.string "k")), .scalar (.string "v"))]
    v.toNode = .ok (.struct [("k", .text "v")]) ∧ ¬ ∀ u ∈ v.tagUses false, u.Proper := by
  refine ⟨rfl, fun h => ?_⟩
  have hkey := h ⟨true, "foo", .scalar (.string "k")⟩ (by simp [tagUses, tagUsesEntries])
  cases hkey.1

end Yaml.Value

end Gleaner
