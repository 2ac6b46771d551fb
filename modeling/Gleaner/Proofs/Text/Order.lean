import Gleaner.Proofs.Text.Utf8
import Mathlib.Tactic.SplitIfs
/-!
# Texts and bytes in order

Texts are ordered by the code points of their characters. Encoding keeps this order: of two
characters the one with the lower code point has the lower bytes, and as neither encoding is the
front of the other, what follows them makes no difference. So texts in order have their bytes in
order.
-/
namespace Gleaner.Text

theorem encode_append_lt {c d : Char} (h : c < d) (x y : List UInt8) :
    String.utf8EncodeChar c ++ x < String.utf8EncodeChar d ++ y := by
  have hlt : c.val.toNat < d.val.toNat := h
  have hmax : d.val.toNat < 0x110000 := by
    have hvalid := d.valid
    simp only [UInt32.isValidChar, Nat.isValidChar] at hvalid
    omega
  unfold String.utf8EncodeChar
  generalize c.val.toNat = v at *
  generalize d.val.toNat = w at *
  dsimp only
  -- One case for each two lengths of encodings. Bytes become their numbers, the digits of the code
  -- points in base 64, and it helps to know whether the digits before the last two differ.
  split_ifs
  all_goals simp only [List.cons_append, List.nil_append, List.cons_lt_cons_iff,
    UInt8.lt_iff_toNat_lt, ← UInt8.toNat_inj]
  all_goals simp (disch := (change _ < 256; omega)) only [UInt8.toNat_ofNat_of_lt']
  all_goals rcases Nat.lt_or_ge (v / 4096) (w / 4096) with hhigh | hhigh
  all_goals omega

theorem utf8_lt_utf8 {a b : List Char} (h : a < b) : utf8 a < utf8 b := by
  induction h with
  | @nil c cs =>
    obtain ⟨x, rest, hx, _⟩ := utf8_first c cs
    rw [hx]
    exact List.Lex.nil
  | rel hchar => exact encode_append_lt hchar _ _
  | cons _ ih => exact List.append_left_lt ih

/-- A text that comes before another has the lower bytes. -/
theorem bytes_lt_bytes {s t : String} (h : s < t) : bytes s < bytes t := utf8_lt_utf8 h

end Gleaner.Text
