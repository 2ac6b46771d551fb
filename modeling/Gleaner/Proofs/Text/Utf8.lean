import Gleaner.Text.Bytes
/-!
# Bytes and characters

No character's encoding is the front of another's, and only the first byte of an encoding can start
one. So slices of bytes that hold whole encodings are slices of characters: the front, the end and
the runs of an encoded text that are encoded texts themselves are those of its characters. Making
ASCII capitals small is the same before and after encoding.
-/
namespace Gleaner.Text

@[simp] theorem utf8_nil : utf8 [] = [] := rfl

theorem utf8_cons (c : Char) (cs : List Char) :
    utf8 (c :: cs) = String.utf8EncodeChar c ++ utf8 cs := rfl

theorem utf8_append (a b : List Char) : utf8 (a ++ b) = utf8 a ++ utf8 b := List.flatMap_append

theorem utf8_eq_nil {cs : List Char} : utf8 cs = [] ↔ cs = [] := by
  cases cs with
  | nil => simp
  | cons c rest => simp [utf8_cons, String.utf8EncodeChar_ne_nil]

theorem length_bytes (s : String) : (bytes s).length = s.utf8ByteSize := by
  have hencode : (utf8 s.toList).toByteArray = s.toByteArray := String.utf8Encode_toList
  rw [String.utf8ByteSize, ← hencode, bytes, List.size_toByteArray]

/-- The first character of an encoded text can be read off its bytes. -/
theorem encode_append_inj {c d : Char} {x y : List UInt8}
    (h : String.utf8EncodeChar c ++ x = String.utf8EncodeChar d ++ y) : c = d ∧ x = y := by
  have hbytes := congrArg List.toByteArray h
  rw [List.toByteArray_append, List.toByteArray_append] at hbytes
  have hread := congrArg (ByteArray.utf8DecodeChar? · 0) hbytes
  simp only [ByteArray.utf8DecodeChar?_utf8EncodeChar_append, Option.some.injEq] at hread
  subst hread
  exact ⟨rfl, List.append_cancel_left h⟩

theorem utf8_prefix_iff {a b : List Char} : utf8 a <+: utf8 b ↔ a <+: b := by
  constructor
  · intro h
    induction a generalizing b with
    | nil => exact List.nil_prefix
    | cons c a ih =>
      cases b with
      | nil => exact absurd (utf8_eq_nil.mp (List.prefix_nil.mp h)) (List.cons_ne_nil c a)
      | cons d b =>
        obtain ⟨rest, hrest⟩ := h
        rw [utf8_cons, utf8_cons, List.append_assoc] at hrest
        obtain ⟨rfl, htail⟩ := encode_append_inj hrest
        exact (List.prefix_cons_inj c).mpr (ih ⟨rest, htail⟩)
  · rintro ⟨rest, rfl⟩
    exact ⟨utf8 rest, (utf8_append a rest).symm⟩

theorem utf8_inj {a b : List Char} : utf8 a = utf8 b ↔ a = b := by
  constructor
  · intro h
    have hab : a <+: b := utf8_prefix_iff.mp (h ▸ List.prefix_rfl)
    have hba : b <+: a := utf8_prefix_iff.mp (h ▸ List.prefix_rfl)
    exact hab.eq_of_length_le hba.length_le
  · rintro rfl
    rfl

/-- Only the first byte of an encoding is a first byte. -/
theorem not_first_of_encode {c : Char} {front back : List UInt8} {b : UInt8}
    (h : String.utf8EncodeChar c = front ++ b :: back) (hfront : front ≠ []) :
    ¬ b.IsUTF8FirstByte := by
  have hlen : front.length < (String.utf8EncodeChar c).length := by simp [h]
  have hb : (String.utf8EncodeChar c)[front.length] = b := by simp [h]
  rw [← hb, UInt8.isUTF8FirstByte_getElem_utf8EncodeChar]
  exact fun h0 => hfront (List.length_eq_zero_iff.mp h0)

theorem utf8_first (c : Char) (cs : List Char) :
    ∃ b rest, utf8 (c :: cs) = b :: rest ∧ b.IsUTF8FirstByte := by
  cases h : String.utf8EncodeChar c with
  | nil => exact absurd h String.utf8EncodeChar_ne_nil
  | cons b rest =>
    refine ⟨b, rest ++ utf8 cs, by rw [utf8_cons, h, List.cons_append], ?_⟩
    have hfirst := UInt8.isUTF8FirstByte_getElem_zero_utf8EncodeChar (c := c)
    simpa [h] using hfirst

/-- Before a first byte, an encoded text falls into two. -/
theorem utf8_split {cs : List Char} {front back : List UInt8} {b : UInt8}
    (h : utf8 cs = front ++ b :: back) (hb : b.IsUTF8FirstByte) :
    ∃ before after, cs = before ++ after ∧ utf8 before = front ∧ utf8 after = b :: back := by
  induction cs generalizing front with
  | nil => simp at h
  | cons d cs ih =>
    by_cases hfront : front = []
    · subst hfront
      exact ⟨[], d :: cs, rfl, rfl, h⟩
    · rw [utf8_cons] at h
      -- The byte cannot be inside the encoding of the first character: it is where a later one
      -- starts.
      rcases List.append_eq_append_iff.mp h with ⟨rest, rfl, hrest⟩ | ⟨rest, hd, hrest⟩
      · obtain ⟨before, after, rfl, rfl, hafter⟩ := ih hrest
        exact ⟨d :: before, after, rfl, rfl, hafter⟩
      · cases rest with
        | nil =>
          refine ⟨[d], cs, rfl, ?_, hrest.symm⟩
          rw [utf8_cons, utf8_nil, hd, List.append_nil, List.append_nil]
        | cons x rest =>
          obtain rfl : b = x := (List.cons.inj hrest).1
          exact absurd hb (not_first_of_encode hd hfront)

theorem utf8_infix_iff {a b : List Char} : utf8 a <:+: utf8 b ↔ a <:+: b := by
  constructor
  · rintro ⟨front, back, h⟩
    cases a with
    | nil => exact List.nil_infix
    | cons c a =>
      obtain ⟨x, rest, hx, hfirst⟩ := utf8_first c a
      have hb : utf8 b = front ++ x :: (rest ++ back) := by simp [← h, hx]
      obtain ⟨before, after, rfl, _, hafter⟩ := utf8_split hb hfirst
      have hprefix : utf8 (c :: a) <+: utf8 after := ⟨back, by rw [hafter, hx]; rfl⟩
      exact (utf8_prefix_iff.mp hprefix).isInfix.trans (List.suffix_append _ _).isInfix
  · rintro ⟨front, back, rfl⟩
    exact ⟨utf8 front, utf8 back, by simp [utf8_append]⟩

theorem utf8_suffix_iff {a b : List Char} : utf8 a <:+ utf8 b ↔ a <:+ b := by
  constructor
  · rintro ⟨front, h⟩
    cases a with
    | nil => exact List.nil_suffix
    | cons c a =>
      obtain ⟨x, rest, hx, hfirst⟩ := utf8_first c a
      have hb : utf8 b = front ++ x :: rest := by rw [← h, hx]
      obtain ⟨before, after, rfl, _, hafter⟩ := utf8_split hb hfirst
      obtain rfl : after = c :: a := utf8_inj.mp (hafter.trans hx.symm)
      exact List.suffix_append _ _
  · rintro ⟨front, rfl⟩
    exact ⟨utf8 front, (utf8_append _ _).symm⟩

theorem lowerByte_of_mem_encode {c : Char} (h : 127 < c.val.toNat) {b : UInt8}
    (hb : b ∈ String.utf8EncodeChar c) : lowerByte b = b := by
  have hlarge : 128 ≤ b.toNat := by
    simp only [String.utf8EncodeChar, if_neg (Nat.not_le.mpr h)] at hb
    split at hb
    · simp only [List.mem_cons, List.not_mem_nil, or_false] at hb
      rcases hb with rfl | rfl <;> simp only [UInt8.toNat_ofNat'] <;> omega
    · split at hb
      · simp only [List.mem_cons, List.not_mem_nil, or_false] at hb
        rcases hb with rfl | rfl | rfl <;> simp only [UInt8.toNat_ofNat'] <;> omega
      · simp only [List.mem_cons, List.not_mem_nil, or_false] at hb
        rcases hb with rfl | rfl | rfl | rfl <;> simp only [UInt8.toNat_ofNat'] <;> omega
  have hcapital : ¬ (65 ≤ b ∧ b ≤ 90) := by
    simp only [UInt8.le_iff_toNat_le, UInt8.reduceToNat]
    omega
  exact if_neg hcapital

theorem encode_lowerChar_ascii : ∀ n : Fin 128, String.utf8EncodeChar (lowerChar (Char.ofNat n)) =
    (String.utf8EncodeChar (Char.ofNat n)).map lowerByte := by
  decide

theorem encode_lowerChar (c : Char) :
    String.utf8EncodeChar (lowerChar c) = (String.utf8EncodeChar c).map lowerByte := by
  by_cases hascii : c.toNat < 128
  · simpa only [Char.ofNat_toNat] using encode_lowerChar_ascii ⟨c.toNat, hascii⟩
  · have hlarge : 127 < c.val.toNat := Nat.not_lt.mp hascii
    have hcapital : ¬ ('A' ≤ c ∧ c ≤ 'Z') := by
      rintro ⟨_, hz⟩
      have hz' : c.val.toNat ≤ 90 := UInt32.le_iff_toNat_le.mp hz
      omega
    have hsame := List.map_congr_left fun b hb => lowerByte_of_mem_encode hlarge hb
    rw [lowerChar, if_neg hcapital, hsame, List.map_id']

/-- Capitals are made small in a text as in its bytes. -/
theorem utf8_map_lowerChar (cs : List Char) :
    utf8 (cs.map lowerChar) = (utf8 cs).map lowerByte := by
  induction cs with
  | nil => rfl
  | cons c cs ih => rw [List.map_cons, utf8_cons, utf8_cons, ih, encode_lowerChar, List.map_append]

end Gleaner.Text
