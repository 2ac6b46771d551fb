import Gleaner.Regex.Pattern
/-!
# Normal forms of patterns

Patterns are built by the functions below, which simplify as they go. Neighbouring literals become
one, sequences and alternatives do not contain their like directly, alternatives that are all single
characters or all sets become one set, and a beginning that all alternatives share comes before
them. What a pattern matches stays the same; what changes is the room that its program needs.
-/
namespace Gleaner.Regex.Pattern

open Gleaner.Unicode

/-- The pattern of a set. A set without characters is of the plain kind, and one with a single
character is a literal. -/
def ofSet (s : CharSet) (unicode : Bool) : Pattern :=
  match s.ranges with
  | [] => .set s false
  | [(first, last)] =>
    if first = last then .literal [Char.ofNat first] else .set s unicode
  | _ => .set s unicode

/-- Repeats a pattern. Where it matches only empty texts, one round does what more of them do. -/
def rounds (p : Pattern) (min : Nat) (max : Option Nat) (greedy : Bool) : Pattern :=
  let (min, max) :=
    if p.isEmptyOnly then (Nat.min min 1, some (Nat.min (max.getD 1) 1)) else (min, max)
  if max = some 0 then .empty
  else if min = 1 ∧ max = some 1 then p
  else .times p min max greedy

/-- Puts a literal in front of some patterns, its characters being given in reverse. -/
def flush (pending : List Char) (done : List Pattern) : List Pattern :=
  if pending.isEmpty then done else .literal pending.reverse :: done

/-- Joins neighbouring literals and leaves out empty parts. `pending` holds the characters of the
last literal in reverse, and `done` the parts before it, the last one first. -/
def joinLiterals (done : List Pattern) (pending : List Char) : List Pattern → List Pattern
  | [] => (flush pending done).reverse
  | .literal chars :: rest => joinLiterals done (chars.reverse ++ pending) rest
  | .empty :: rest => joinLiterals done pending rest
  | p :: rest => joinLiterals (p :: flush pending done) [] rest

def sequence (parts : List Pattern) : Pattern :=
  let flat := parts.flatMap fun p => match p with
    | .concat inner => inner
    | p => [p]
  match joinLiterals [] [] flat with
  | [] => .empty
  | [p] => p
  | joined => .concat joined

def char? : Pattern → Option Char
  | .literal [c] => some c
  | _ => none

def ranges? : Pattern → Option (List (Nat × Nat))
  | .set s _ => some s.ranges
  | _ => none

def parts? : Pattern → Option (List Pattern)
  | .concat parts => some parts
  | _ => none

def singleChars? (branches : List Pattern) : Option CharSet :=
  (branches.mapM char?).map fun chars => .ofRanges (chars.map fun c => (c.toNat, c.toNat))

def setUnion? (branches : List Pattern) : Option CharSet :=
  (branches.mapM ranges?).map fun ranges => .ofRanges ranges.flatten

def commonStart (as bs : List Pattern) : List Pattern :=
  ((as.zip bs).takeWhile fun (a, b) => a.same b).map (·.1)

/-- The parts with which all of some sequences begin; none if one of them is not a sequence. -/
def sharedStart (branches : List Pattern) : List Pattern :=
  match branches.mapM parts? with
  | some (first :: rest) => rest.foldl commonStart first
  | _ => []

def dropParts (n : Nat) : Pattern → Pattern
  | .concat parts => .sequence (parts.drop n)
  | p => p

mutual
def weight : Pattern → Nat
  | .capture _ inner => inner.weight + 1
  | .times inner _ _ _ => inner.weight + 1
  | .concat parts => totalWeight 1 parts
  | .either branches => totalWeight 1 branches
  | _ => 1
def totalWeight (sofar : Nat) : List Pattern → Nat
  | [] => sofar
  | p :: rest => totalWeight (sofar + p.weight) rest
end

/-- Alternatives, from which beginnings that all share are taken out as often as `fuel` says. -/
def alternativesWithin : (fuel : Nat) → List Pattern → Pattern
  | 0, branches => .either branches
  | fuel + 1, branches =>
    let flat := branches.flatMap fun p => match p with
      | .either inner => inner
      | p => [p]
    match flat with
    | [] => .ofSet .empty false
    | [p] => p
    | _ =>
      match (singleChars? flat).or (setUnion? flat) with
      | some s => .ofSet s true
      | none =>
        match sharedStart flat with
        | [] => .either flat
        | shared =>
          .sequence
            (shared ++ [alternativesWithin fuel (flat.map (dropParts shared.length))])

/-- Alternatives. Each time that a shared beginning is taken out they get lighter, so their weight
says how often that can be. -/
def alternatives (branches : List Pattern) : Pattern :=
  alternativesWithin (totalWeight 1 branches) branches

end Gleaner.Regex.Pattern
