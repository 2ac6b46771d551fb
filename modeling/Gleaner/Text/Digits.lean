/-!
# Digits

The numbers that digits stand for, in any base up to sixteen. Letters that are digits may be small
or capital.
-/
namespace Gleaner.Text

def hexDigit? (c : Char) : Option Nat :=
  if '0' ≤ c ∧ c ≤ '9' then some (c.toNat - '0'.toNat)
  else if 'a' ≤ c ∧ c ≤ 'f' then some (c.toNat - 'a'.toNat + 10)
  else if 'A' ≤ c ∧ c ≤ 'F' then some (c.toNat - 'A'.toNat + 10)
  else none

def digit? (base : Nat) (c : Char) : Option Nat :=
  match hexDigit? c with
  | some d => if d < base then some d else none
  | none => none

/-- The number that digits stand for in a base. There is at least one digit. -/
def digits? (base : Nat) (cs : List Char) : Option Nat :=
  if cs.isEmpty then none
  else cs.foldlM (fun n c => (digit? base c).map (n * base + ·)) 0

/-- The character of the given number in hexadecimal digits. Surrogates are no characters. -/
def numberedChar? (digits : List Char) : Option Char :=
  match digits? 16 digits with
  | some n => if n < 0xD800 ∨ (0xDFFF < n ∧ n < 0x110000) then some (Char.ofNat n) else none
  | none => none

end Gleaner.Text
