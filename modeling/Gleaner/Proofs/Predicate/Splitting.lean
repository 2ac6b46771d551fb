import Gleaner.Proofs.Predicate.Matcher
/-!
# Where a literal occurs

A text can be split before any of its characters. Making capitals small is the same before a split
as after it, so a run of small characters in a text is where the text can be split: a literal occurs
in a text just where one of its ends starts with the literal, and just where one of its fronts ends
with it.
-/
namespace Gleaner

namespace Text

variable {ignoreCase : Bool}

theorem folded_append (ignoreCase : Bool) (s t : String) :
    folded ignoreCase (s ++ t) = folded ignoreCase s ++ folded ignoreCase t := by
  cases ignoreCase with
  | false => exact String.toList_append
  | true =>
    rw [folded, if_pos rfl, String.toList_append, List.map_append]
    rfl

theorem folded_eq_append {text : String} {front back : List Char} :
    folded ignoreCase text = front ++ back ↔
      ∃ s t, text = s ++ t ∧ folded ignoreCase s = front ∧ folded ignoreCase t = back := by
  constructor
  · intro h
    cases ignoreCase with
    | false =>
      refine
        ⟨String.ofList front, String.ofList back, ?_, String.toList_ofList, String.toList_ofList⟩
      rw [← String.ofList_append, ← h]
      exact String.ofList_toList.symm
    | true =>
      obtain ⟨as, bs, htext, rfl, rfl⟩ := List.map_eq_append_iff.mp h
      refine ⟨String.ofList as, String.ofList bs, ?_, ?_, ?_⟩
      · rw [← String.ofList_append, ← htext, String.ofList_toList]
      · rw [folded, if_pos rfl, String.toList_ofList]
      · rw [folded, if_pos rfl, String.toList_ofList]
  · rintro ⟨s, t, rfl, rfl, rfl⟩
    exact folded_append ignoreCase s t

theorem length_utf8_folded (ignoreCase : Bool) (s : String) :
    (utf8 (folded ignoreCase s)).length = s.utf8ByteSize := by
  rw [← map_foldByte_bytes, List.length_map, length_bytes]

end Text

open Text

namespace Matcher

variable {ignoreCase : Bool} {value text : String}

theorem accepts_containing_iff_leading :
    (literal .containing value ignoreCase).accepts text = true ↔ ∃ before rest,
      text = before ++ rest ∧ (literal .leading value ignoreCase).accepts rest = true := by
  simp only [accepts, isContained_iff, isLeading_iff]
  constructor
  · rintro ⟨front, back, h⟩
    rw [List.append_assoc] at h
    obtain ⟨before, rest, htext, _, hrest⟩ := folded_eq_append.mp h.symm
    exact ⟨before, rest, htext, back, hrest.symm⟩
  · rintro ⟨before, rest, rfl, h⟩
    rw [folded_append]
    exact h.isInfix.trans (List.suffix_append _ _).isInfix

theorem accepts_containing_iff_trailing :
    (literal .containing value ignoreCase).accepts text = true ↔ ∃ front after,
      text = front ++ after ∧ (literal .trailing value ignoreCase).accepts front = true := by
  simp only [accepts, isContained_iff, isTrailing_iff]
  constructor
  · rintro ⟨before, back, h⟩
    obtain ⟨front, after, htext, hfront, _⟩ := folded_eq_append.mp h.symm
    exact ⟨front, after, htext, before, hfront.symm⟩
  · rintro ⟨front, after, rfl, h⟩
    rw [folded_append]
    exact h.isInfix.trans (List.prefix_append _ _).isInfix

/-- A literal that a text starts with is all of the text if both have the same number of bytes. -/
theorem accepts_exact_iff_leading : (literal .exact value ignoreCase).accepts text = true ↔
    (literal .leading value ignoreCase).accepts text = true ∧
      text.utf8ByteSize = value.utf8ByteSize := by
  simp only [accepts, isExact_iff, isLeading_iff]
  rw [← length_utf8_folded ignoreCase text, ← length_utf8_folded ignoreCase value]
  constructor
  · intro h
    exact ⟨h ▸ List.prefix_rfl, by rw [h]⟩
  · rintro ⟨hlead, hsize⟩
    -- It is bytes that are as many on both sides, so the two are compared as bytes.
    exact utf8_inj.mp ((utf8_prefix_iff.mpr hlead).eq_of_length hsize.symm)

/-- A literal occurs in a text just where the text can be split before an end that starts with the
literal, and just where it can be split after a front that ends with it. It is the whole text just
where the text starts with it and has as many bytes. -/
theorem accepts_iff_splits (value text : String) (ignoreCase : Bool) :
    ((literal .containing value ignoreCase).accepts text = true ↔
      ∃ before rest, text = before ++ rest ∧
        (literal .leading value ignoreCase).accepts rest = true) ∧
    ((literal .containing value ignoreCase).accepts text = true ↔
      ∃ front after, text = front ++ after ∧
        (literal .trailing value ignoreCase).accepts front = true) ∧
    ((literal .exact value ignoreCase).accepts text = true ↔
      (literal .leading value ignoreCase).accepts text = true ∧
        text.utf8ByteSize = value.utf8ByteSize) :=
  ⟨accepts_containing_iff_leading, accepts_containing_iff_trailing, accepts_exact_iff_leading⟩

end Matcher

end Gleaner
