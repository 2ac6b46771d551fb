/-!
# Sets of code points

A set is a list of inclusive ranges in increasing order, no two of them touching. Tables of
properties are written as text, one range after another in hexadecimal, and read when needed.
-/
namespace Gleaner.Unicode

/-- A set of code points: inclusive ranges in increasing order, no two touching. -/
structure CharSet where
  ranges : List (Nat × Nat)
  deriving DecidableEq, Repr, Inhabited

/-- A set of a table: the names it goes by, and its ranges as text. -/
structure NamedSet where
  names : List String
  ranges : String

/-- The value of hexadecimal digits; other characters count as zero. -/
def hexValue (digits : List Char) : Nat :=
  digits.foldl (fun n c =>
    let d := if c.isDigit then c.toNat - '0'.toNat
      else if 'A'.toNat ≤ c.toNat ∧ c.toNat ≤ 'F'.toNat then c.toNat - 'A'.toNat + 10 else 0
    16 * n + d) 0

def words (s : String) : List (List Char) :=
  let (rest, current) := s.toList.foldl (fun (done, current) c =>
    if c = ' ' ∨ c = '\n' then
      (if current.isEmpty then done else current.reverse :: done, [])
    else (done, c :: current)) (([] : List (List Char)), ([] : List Char))
  (if current.isEmpty then rest else current.reverse :: rest).reverse

/-- The range that a word describes: `first-last`, or a single code point. -/
def parseRange (word : List Char) : Nat × Nat :=
  let first := hexValue (word.takeWhile (· != '-'))
  match word.dropWhile (· != '-') with
  | [] => (first, first)
  | _ :: last => (first, hexValue last)

namespace CharSet

def empty : CharSet := ⟨[]⟩

/-- Ranges in increasing order, merged where they meet or overlap; `done` holds those already
merged, the last one first. -/
def merge (done : List (Nat × Nat)) : List (Nat × Nat) → List (Nat × Nat)
  | [] => done.reverse
  | (a, b) :: rest =>
    match done with
    | (c, d) :: earlier =>
      if a ≤ d + 1 then merge ((c, max b d) :: earlier) rest else merge ((a, b) :: done) rest
    | [] => merge [(a, b)] rest

/-- The set of all code points in some ranges, given in any order. -/
def ofRanges (ranges : List (Nat × Nat)) : CharSet :=
  ⟨merge [] ((ranges.filter fun r => r.1 ≤ r.2).mergeSort fun r s => r.1 ≤ s.1)⟩

def ofRange (first last : Nat) : CharSet := ofRanges [(first, last)]

def singleton (c : Char) : CharSet := ⟨[(c.toNat, c.toNat)]⟩

def parse (table : String) : CharSet := ofRanges ((words table).map parseRange)

def inRanges (n : Nat) : List (Nat × Nat) → Bool
  | [] => false
  | (a, b) :: rest => if n < a then false else if n ≤ b then true else inRanges n rest

def contains (s : CharSet) (n : Nat) : Bool := inRanges n s.ranges

def isEmpty (s : CharSet) : Bool := s.ranges.isEmpty

/-- Every scalar value: the code points without the surrogates. -/
def all : CharSet := ⟨[(0, 0xD7FF), (0xE000, 0x10FFFF)]⟩

def union (s t : CharSet) : CharSet := ofRanges (s.ranges ++ t.ranges)

def gaps (start stop : Nat) : List (Nat × Nat) → List (Nat × Nat)
  | [] => if start ≤ stop then [(start, stop)] else []
  | (a, b) :: rest =>
    if start < a then (start, a - 1) :: gaps (b + 1) stop rest else gaps (b + 1) stop rest

def compl (s : CharSet) : CharSet :=
  ⟨gaps 0 0x10FFFF (s.union ⟨[(0xD800, 0xDFFF)]⟩).ranges⟩

/-- The bytes below `0x100` that are not in a set of bytes. -/
def complByte (s : CharSet) : CharSet := ⟨gaps 0 0xFF s.ranges⟩

def inter (s t : CharSet) : CharSet := (s.compl.union t.compl).compl

def diff (s t : CharSet) : CharSet := s.inter t.compl

def symmDiff (s t : CharSet) : CharSet := (s.diff t).union (t.diff s)

def named? (table : List NamedSet) (name : String) : Option CharSet :=
  (table.find? fun entry => entry.names.contains name).map fun entry => parse entry.ranges

def unionNamed (table : List NamedSet) (names : List String) : CharSet :=
  ofRanges ((table.filter fun entry => entry.names.any names.contains).flatMap fun entry =>
    (words entry.ranges).map parseRange)

end CharSet

end Gleaner.Unicode
