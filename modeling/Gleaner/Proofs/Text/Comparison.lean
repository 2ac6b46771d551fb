import Gleaner.Proofs.Text.Utf8
/-!
# Comparing bytes

Comparisons of lists that go item by item are equality, being a front and being a run of the lists
of keys, where items are the same if their keys are equal. The runs of a list are its windows.
Slices of a text by numbers of bytes are slices of its characters with that many bytes.
-/
namespace Gleaner.Text

variable {α β : Type} {same : α → α → Bool} {key : α → β}

theorem alike_iff (hsame : ∀ x y, same x y = true ↔ key x = key y) {a b : List α} :
    alike same a b = true ↔ a.map key = b.map key := by
  induction a generalizing b with
  | nil => cases b <;> simp [alike]
  | cons x a ih =>
    cases b with
    | nil => simp [alike]
    | cons y b =>
      rw [alike, List.map_cons, List.map_cons, List.cons.injEq, ← hsame, ← ih]
      cases same x y <;> simp

theorem leads_iff (hsame : ∀ x y, same x y = true ↔ key x = key y) {a b : List α} :
    leads same a b = true ↔ a.map key <+: b.map key := by
  induction a generalizing b with
  | nil => simp [leads]
  | cons x a ih =>
    cases b with
    | nil => simp [leads]
    | cons y b =>
      rw [leads, List.map_cons, List.map_cons, List.cons_prefix_cons, ← hsame, ← ih]
      cases same x y <;> simp

theorem occurs_iff (hsame : ∀ x y, same x y = true ↔ key x = key y) {a b : List α} :
    occurs same a b = true ↔ a.map key <:+: b.map key := by
  induction b with
  | nil => rw [occurs, leads_iff hsame, List.map_nil, List.prefix_nil, List.infix_nil]
  | cons y b ih =>
    rw [occurs, List.map_cons, List.infix_cons_iff, ← List.map_cons, ← leads_iff hsame, ← ih]
    cases leads same a (y :: b) <;> simp

/-- All runs of the given length, from the first on; there is no list of runs of no items. -/
def windows? (size : Nat) (items : List α) : Option (List (List α)) :=
  if size = 0 then none
  else some ((List.range (items.length + 1 - size)).map fun i => (items.drop i).take size)

theorem infix_iff_window {value items : List α} : value <:+: items ↔
    ∃ i < items.length + 1 - value.length, value = (items.drop i).take value.length := by
  constructor
  · rintro ⟨front, back, rfl⟩
    refine ⟨front.length, ?_, ?_⟩
    · simp only [List.length_append]
      omega
    · rw [List.append_assoc, List.drop_left, List.take_left]
  · rintro ⟨i, _, hwindow⟩
    rw [hwindow]
    exact (List.take_prefix _ _).isInfix.trans (List.drop_suffix i items).isInfix

theorem any_windows (hsame : ∀ x y, same x y = true ↔ key x = key y) {value items : List α}
    (hvalue : value ≠ []) : (windows? value.length items).map (·.any (alike same value)) =
      some (occurs same value items) := by
  have hsize : value.length ≠ 0 := mt List.length_eq_zero_iff.mp hvalue
  rw [windows?, if_neg hsize, Option.map_some, Option.some.injEq, Bool.eq_iff_iff,
    occurs_iff hsame, infix_iff_window]
  simp only [List.any_map, List.any_eq_true, List.mem_range, Function.comp_apply,
    alike_iff hsame, List.map_take, List.map_drop, List.length_map]

/-- The byte that stands for another in a comparison. -/
def foldByte (ignoreCase : Bool) (b : UInt8) : UInt8 := if ignoreCase then lowerByte b else b

theorem sameByte_iff (ignoreCase : Bool) (x y : UInt8) :
    sameByte ignoreCase x y = true ↔ foldByte ignoreCase x = foldByte ignoreCase y := by
  cases ignoreCase <;> simp [sameByte, foldByte]

def folded (ignoreCase : Bool) (s : String) : List Char :=
  if ignoreCase then s.toList.map lowerChar else s.toList

theorem toList_lower (s : String) : (lower s).toList = s.toList.map lowerChar := by
  rw [lower, String.toList_map]

theorem map_foldByte_bytes (ignoreCase : Bool) (s : String) :
    (bytes s).map (foldByte ignoreCase) = utf8 (folded ignoreCase s) := by
  cases ignoreCase with
  | false => exact List.map_id' _
  | true => exact (utf8_map_lowerChar s.toList).symm

theorem length_utf8_cons (c : Char) (cs : List Char) :
    (utf8 (c :: cs)).length = c.utf8Size + (utf8 cs).length := by
  rw [utf8_cons, List.length_append, String.length_utf8EncodeChar]

/-- A boundary lies after the characters that take the given number of bytes. -/
theorem boundary?_eq_some {seen n k : Nat} {cs : List Char} :
    boundary? seen n cs = some k ↔ ∃ front back, cs = front ++ back ∧
      k = seen + front.length ∧ (utf8 front).length = n := by
  induction cs generalizing seen n with
  | nil =>
    cases n with
    | zero => simp [boundary?, eq_comm]
    | succ n => simp [boundary?]
  | cons c cs ih =>
    cases n with
    | zero =>
      rw [boundary?, Option.some.injEq]
      constructor
      · rintro rfl
        exact ⟨[], c :: cs, rfl, rfl, rfl⟩
      · rintro ⟨front, back, _, rfl, hlen⟩
        obtain rfl := utf8_eq_nil.mp (List.length_eq_zero_iff.mp hlen)
        rfl
    | succ n =>
      rw [boundary?]
      constructor
      · intro h
        split at h
        · obtain ⟨front, back, rfl, rfl, hlen⟩ := ih.mp h
          refine ⟨c :: front, back, rfl, by rw [List.length_cons]; omega, ?_⟩
          rw [length_utf8_cons]
          omega
        · cases h
      · rintro ⟨_ | ⟨d, front⟩, back, hcs, rfl, hlen⟩
        · cases hlen
        · obtain ⟨rfl, rfl⟩ := List.cons.inj hcs
          rw [length_utf8_cons] at hlen
          rw [if_pos (by omega), ih]
          exact ⟨front, back, rfl, by rw [List.length_cons]; omega, by omega⟩

theorem takeBytes?_eq_some {n : Nat} {cs front : List Char} :
    takeBytes? n cs = some front ↔ front <+: cs ∧ (utf8 front).length = n := by
  rw [takeBytes?, Option.map_eq_some_iff]
  constructor
  · rintro ⟨k, hk, rfl⟩
    obtain ⟨front, back, rfl, rfl, hlen⟩ := boundary?_eq_some.mp hk
    rw [Nat.zero_add, List.take_left]
    exact ⟨List.prefix_append _ _, hlen⟩
  · rintro ⟨⟨back, rfl⟩, hlen⟩
    refine ⟨front.length, boundary?_eq_some.mpr ⟨front, back, rfl, (Nat.zero_add _).symm, hlen⟩, ?_⟩
    exact List.take_left

theorem dropBytes?_eq_some {n : Nat} {cs back : List Char} :
    dropBytes? n cs = some back ↔ ∃ front, cs = front ++ back ∧ (utf8 front).length = n := by
  rw [dropBytes?, Option.map_eq_some_iff]
  constructor
  · rintro ⟨k, hk, rfl⟩
    obtain ⟨front, back, rfl, rfl, hlen⟩ := boundary?_eq_some.mp hk
    rw [Nat.zero_add, List.drop_left]
    exact ⟨front, rfl, hlen⟩
  · rintro ⟨front, rfl, hlen⟩
    refine ⟨front.length, boundary?_eq_some.mpr ⟨front, back, rfl, (Nat.zero_add _).symm, hlen⟩, ?_⟩
    exact List.drop_left

end Gleaner.Text
