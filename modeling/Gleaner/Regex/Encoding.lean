import Gleaner.Unicode.CharSet
/-!
# Bytes of sets of characters

In UTF-8 a character is one to four bytes. The characters of a set are those that some sequences of
byte ranges stand for, and `byteRanges` gives these sequences in the order of the characters.
-/
namespace Gleaner.Regex

open Gleaner.Unicode

/-- Ranges of bytes, one for each byte of a character. -/
abbrev ByteRanges := List (Nat × Nat)

/-- The sequences that cover the numbers from `first` to `last`, written with one digit more than
`places` in base 64. The first digit is raised by `lead`, and the others are continuation bytes. -/
def sequencesOf (lead : Nat) : (places first last : Nat) → List ByteRanges
  | 0, first, last => [[(lead + first, lead + last)]]
  | places + 1, first, last =>
    let unit := Nat.pow 64 (places + 1)
    let under (digit : Nat) (tails : List ByteRanges) : List ByteRanges :=
      tails.map ((lead + digit, lead + digit) :: ·)
    let high := first / unit
    let top := last / unit
    if high = top then under high (sequencesOf 0x80 places (first % unit) (last % unit))
    else
      let startsWhole := first % unit = 0
      let endsWhole := last % unit = unit - 1
      let front := if startsWhole then []
        else under high (sequencesOf 0x80 places (first % unit) (unit - 1))
      let back := if endsWhole then [] else under top (sequencesOf 0x80 places 0 (last % unit))
      let from' := if startsWhole then high else high + 1
      let until' := if endsWhole then top + 1 else top
      let middle := if from' < until' then
          [(lead + from', lead + until' - 1) :: List.replicate (places + 1) (0x80, 0xBF)]
        else []
      front ++ middle ++ back

/-- The code points with a given number of bytes: the places after the first byte, what the first
byte is raised by, and the first and the last of them. -/
def encodings : List (Nat × Nat × Nat × Nat) :=
  [(0, 0, 0, 0x7F), (1, 0xC0, 0x80, 0x7FF), (2, 0xE0, 0x800, 0xD7FF), (2, 0xE0, 0xE000, 0xFFFF),
    (3, 0xF0, 0x10000, 0x10FFFF)]

def byteRanges (s : CharSet) : List ByteRanges :=
  s.ranges.flatMap fun (first, last) =>
    encodings.flatMap fun (places, lead, low, high) =>
      if max first low ≤ min last high then
        sequencesOf lead places (max first low) (min last high)
      else []

/-- Sequences by their first range, each with what follows it; those with the same first range go
together where they stand next to each other. -/
def groupByFirst : List ByteRanges → List ((Nat × Nat) × List ByteRanges)
  | [] => []
  | [] :: rest => groupByFirst rest
  | (range :: tail) :: rest =>
    match groupByFirst rest with
    | (next, tails) :: groups =>
      if range = next then (range, tail :: tails) :: groups
      else (range, [tail]) :: (next, tails) :: groups
    | [] => [(range, [tail])]

end Gleaner.Regex
