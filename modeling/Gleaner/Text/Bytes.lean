/-!
# Texts as bytes

Lengths and slices of texts are counted in bytes of the UTF-8 encoding. A slice exists only where
both its ends fall between characters. Letters of the ASCII alphabet may be compared without regard
to their case, byte by byte.
-/
namespace Gleaner.Text

def utf8 (cs : List Char) : List UInt8 := cs.flatMap String.utf8EncodeChar

def bytes (s : String) : List UInt8 := utf8 s.toList

/-- The lower-case letter for an ASCII capital, and any other byte itself. -/
@[inline] def lowerByte (b : UInt8) : UInt8 := if 65 ≤ b ∧ b ≤ 90 then b + 32 else b

def lowerChar (c : Char) : Char := if 'A' ≤ c ∧ c ≤ 'Z' then Char.ofNat (c.toNat + 32) else c

/-- A text with its ASCII capitals made small. -/
def lower (s : String) : String := s.map lowerChar

/-- Whether two bytes are equal, ASCII letters compared without regard to their case if so asked. -/
@[inline] def sameByte (ignoreCase : Bool) (a b : UInt8) : Bool :=
  if ignoreCase then lowerByte a == lowerByte b else a == b

/-- Whether two lists have the same length and `same` holds position by position. -/
@[specialize] def alike {α : Type} (same : α → α → Bool) : List α → List α → Bool
  | [], [] => true
  | a :: as, b :: bs => if same a b then alike same as bs else false
  | _, _ => false

/-- Whether `same` holds position by position between `value` and the front of a list. -/
@[specialize] def leads {α : Type} (same : α → α → Bool) : (value : List α) → List α → Bool
  | [], _ => true
  | _ :: _, [] => false
  | a :: as, b :: bs => if same a b then leads same as bs else false

/-- Whether `value` leads the list or one of its tails. -/
@[specialize] def occurs {α : Type} (same : α → α → Bool) (value : List α) : List α → Bool
  | [] => leads same value []
  | b :: bs => if leads same value (b :: bs) then true else occurs same value bs

/-- The number of characters that take exactly `n` bytes at the front of a text, if some number
does; `seen` characters have been counted already. -/
def boundary? (seen : Nat) : (n : Nat) → List Char → Option Nat
  | 0, _ => some seen
  | _ + 1, [] => none
  | n + 1, c :: rest =>
    if c.utf8Size ≤ n + 1 then boundary? (seen + 1) (n + 1 - c.utf8Size) rest else none

/-- The first `n` bytes of a text, where they end between characters. -/
def takeBytes? (n : Nat) (cs : List Char) : Option (List Char) :=
  (boundary? 0 n cs).map fun k => cs.take k

def dropBytes? (n : Nat) (cs : List Char) : Option (List Char) :=
  (boundary? 0 n cs).map fun k => cs.drop k

end Gleaner.Text
