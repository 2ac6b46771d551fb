import Gleaner.Regex.Flags
/-!
# Bounds of repetitions

The bounds of a repetition stand between braces: one number, or a least number and perhaps a
greatest one. Blanks may stand around a number.
-/
namespace Gleaner.Regex

/-- Reads decimal digits, between which blanks are left out if they do not count. -/
def takeDecimal (flags : Flags) (read : List Char) (cs : List Char) : List Char × List Char :=
  match cs with
  | [] => (read.reverse, [])
  | c :: rest =>
    if c.isDigit then takeDecimal flags (c :: read) (skip flags rest)
    else (read.reverse, c :: rest)
termination_by cs.length
decreasing_by
  have := skip_length flags rest
  simp only [List.length_cons]
  omega

def dropBlanks (flags : Flags) (cs : List Char) : List Char :=
  match cs with
  | [] => []
  | c :: rest => if isBlank c then dropBlanks flags (skip flags rest) else c :: rest
termination_by cs.length
decreasing_by
  have := skip_length flags rest
  simp only [List.length_cons]
  omega

/-- Reads a number of repetitions, which fits 32 bits. Blanks may stand around it. -/
def readCount (flags : Flags) (cs : List Char) : Option (Nat × List Char) :=
  let (digits, rest) := takeDecimal flags [] (cs.dropWhile isBlank)
  if digits.isEmpty then none
  else
    let n := digits.foldl (fun n c => n * 10 + (c.toNat - '0'.toNat)) 0
    if n < 0x100000000 then some (n, dropBlanks flags rest) else none

def readBounds (flags : Flags) (cs : List Char) : Option ((Nat × Option Nat) × List Char) := do
  let (min, rest) ← readCount flags (skip flags cs)
  match rest with
  | '\x7d' :: rest => return ((min, some min), rest)
  | ',' :: rest =>
    match skip flags rest with
    | '\x7d' :: rest => return ((min, none), rest)
    | rest =>
      let (max, rest) ← readCount flags rest
      match rest with
      | '\x7d' :: rest => if min ≤ max then return ((min, some max), rest) else none
      | _ => none
  | _ => none

def readMark (cs : List Char) : Bool × List Char :=
  match cs with
  | '?' :: rest => (true, rest)
  | cs => (false, cs)

end Gleaner.Regex
