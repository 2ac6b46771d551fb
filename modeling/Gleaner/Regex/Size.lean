import Gleaner.Regex.Encoding
import Gleaner.Regex.LiteralTree
import Gleaner.Regex.Pattern
import Std.Data.HashMap
/-!
# Sizes of programs

A pattern is refused if a program for it would take up too much room. The program that is measured
steps over bytes: a character is as many steps as it has bytes in UTF-8, and a set of characters is
the ranges of byte sequences that it has. Such a program is measured twice, for reading texts
forwards and backwards. Forwards, equal remainders of byte sequences share their steps, and
backwards, equal beginnings do. Steps to share are looked up in tables of a fixed number of places,
where a new step takes the place of an old one; so a step that was dropped may be made again.
-/
namespace Gleaner.Regex

open Gleaner.Unicode

/-- The greatest room that a program may take up. -/
def maxProgramSize : Nat := 10 * 1024 * 1024

def stepSize : Nat := 32

def rangeSize : Nat := 8

def targetSize : Nat := 4

/-- A program being measured: the number of its steps, and the room that they take up beyond what
every step does. -/
structure Measure where
  steps : Nat := 0
  extra : Nat := 0
  deriving DecidableEq, Repr

namespace Measure

def room (m : Measure) : Nat := stepSize * m.steps + m.extra

def isTooLarge (m : Measure) : Bool := maxProgramSize < m.room

def addSteps (m : Measure) (n : Nat) : Measure := { m with steps := m.steps + n }

def addRanges (m : Measure) (n : Nat) : Measure := ⟨m.steps + 1, m.extra + rangeSize * n⟩

def addBranch (m : Measure) (n : Nat) : Measure := ⟨m.steps + 1, m.extra + targetSize * n⟩

/-- Adds the same again and again, until there is too much of it. -/
def addTimes (add : Measure → Measure) : Nat → Measure → Measure
  | 0, m => m
  | n + 1, m => if m.isTooLarge then m else addTimes add n (add m)

end Measure

/-- The place of some numbers in a table, by multiplying and adding up. -/
def tablePlace (places : UInt64) (numbers : List Nat) : UInt64 :=
  numbers.foldl (fun h n => (h ^^^ n.toUInt64) * 1099511628211) 14695981039346656037 % places

abbrev Shared := Std.HashMap UInt64 (List Nat × Nat)

structure Sharing where
  measure : Measure
  shared : Shared := {}

namespace Sharing

/-- The step that some numbers describe: one that can be shared, or the one that `add` makes. -/
def step (places : UInt64) (numbers : List Nat) (add : Measure → Measure) :
    Sharing → Nat × Sharing
  | ⟨m, shared⟩ =>
    let place := tablePlace places numbers
    let made := m.steps
    match shared[place]? with
    | some (known, index) =>
      if known == numbers then (index, ⟨m, shared⟩)
      else (made, ⟨add m, shared.insert place (numbers, made)⟩)
    | none => (made, ⟨add m, shared.insert place (numbers, made)⟩)

/-- Adds the step from which some sequences of at most `depth` bytes lead to `target`, after the
steps that it leads to. -/
def addNode (target : Nat) : (depth : Nat) → List ByteRanges → Sharing → Nat × Sharing
  | 0, _, s => (target, s)
  | depth + 1, sequences, s =>
    let (numbers, s) := (groupByFirst sequences).foldl (fun (numbers, s) (range, tails) =>
      let (next, s) :=
        if tails.all (·.isEmpty) then (target, s) else addNode target depth tails s
      (next :: range.2 :: range.1 :: numbers, s)) (([] : List Nat), s)
    step 10000 numbers.reverse (·.addRanges (numbers.length / 3)) s

/-- Adds steps for a sequence of bytes so that the first one leads to `target`, and gives the step
of the last one. -/
def addBackwards (target : Nat) : ByteRanges → Sharing → Nat × Sharing
  | [], s => (target, s)
  | (first, last) :: rest, s =>
    let (made, s) := step 1000 [target, first, last] (·.addSteps 1) s
    addBackwards made rest s

end Sharing

inductive Direction where
  | forward | backward
  deriving DecidableEq, Repr

namespace Measure

def addSet (direction : Direction) (s : CharSet) (m : Measure) : Measure :=
  if s.ranges.all (·.2 < 0x80) then (m.addSteps 1).addRanges s.ranges.length
  else
    let sequences := byteRanges s
    match direction with
    | .forward => (Sharing.addNode m.steps 4 sequences ⟨m.addSteps 1, {}⟩).2.measure
    | .backward =>
      let last := m.steps + 1
      let start : Sharing := ⟨(m.addBranch sequences.length).addSteps 1, {}⟩
      (sequences.foldl (fun s sequence => (Sharing.addBackwards last sequence s).2) start).measure

/-- Adds the room for one node of a tree of literals, unless it is a leaf: a step for each group of
edges, and one that branches to these and, for each end, out of the tree. -/
def addLiteralNode (m : Measure) (n : LiteralNode) : Measure :=
  if n.isLeaf then m
  else
    let groups := n.groups
    let m := groups.foldl (fun m edges => match edges with
      | [_] => m.addSteps 1
      | edges => m.addRanges edges.length) m
    m.addBranch (groups.length + n.closed.length)

def addLiterals (direction : Direction) (literals : List (List Char)) (m : Measure) : Measure :=
  let bytes := literals.map fun chars =>
    let bytes := (String.ofList chars).toUTF8.toList.map (·.toNat)
    match direction with
    | .forward => bytes
    | .backward => bytes.reverse
  (LiteralTree.ofLiterals bytes).nodes.foldl addLiteralNode (m.addSteps 1)

/-- Adds the room for a repetition. A round may be told to match at least one character. -/
def addRounds (add : Measure → Measure) (needsCharacter : Bool) (min : Nat) (max : Option Nat)
    (m : Measure) : Measure :=
  match max with
  | none =>
    if min ≠ 0 then (addTimes add min m).addBranch 2
    else if needsCharacter then add (m.addBranch 2)
    else (((add m).addBranch 2).addBranch 2).addSteps 1
  | some max =>
    if min = 0 ∧ max = 1 then (add (m.addBranch 2)).addSteps 1
    else
      let least := if min = 0 then m.addSteps 1 else addTimes add min m
      if min = max then least
      else addTimes (fun m => add (m.addBranch 2)) (max - min) (least.addSteps 1)

end Measure

namespace Pattern

def literals? (branches : List Pattern) : Option (List (List Char)) :=
  if branches.length < 2 then none
  else branches.mapM fun (p : Pattern) => match p with
    | .literal chars => some chars
    | _ => none

mutual
def measure (direction : Direction) : Pattern → Measure → Measure
  | .empty, m => m.addSteps 1
  | .literal chars, m => m.addSteps (chars.foldl (fun n c => n + c.utf8Size) 0)
  | .set s _, m => m.addSet direction s
  | .look _, m => m.addSteps 1
  | .capture _ inner, m => match direction with
    | .forward => (inner.measure direction (m.addSteps 1)).addSteps 1
    | .backward => inner.measure direction m
  | .times inner min max _, m =>
    m.addRounds (inner.measure direction) (inner.minLength.any (0 < ·)) min max
  | .concat parts, m => measureAll direction parts m
  | .either branches, m => match literals? branches with
    | some literals => m.addLiterals direction literals
    | none => measureBranches direction branches.length 0 branches m
def measureAll (direction : Direction) : List Pattern → Measure → Measure
  | [], m => m
  | p :: rest, m =>
    if m.isTooLarge then m else measureAll direction rest (p.measure direction m)
/-- Adds the room for alternatives. The step that branches to all of them, and the one where they
meet again, come after the first two. -/
def measureBranches (direction : Direction) (count done : Nat) : List Pattern → Measure → Measure
  | [], m => m
  | p :: rest, m =>
    let m := p.measure direction m
    let m := if done = 1 then (m.addBranch count).addSteps 1 else m
    if m.isTooLarge then m else measureBranches direction count (done + 1) rest m
end

/-- The measure of a whole program. Before the pattern, a loop over all bytes lets a match start
anywhere, unless it can only start at the end of the text from which reading starts. Behind it the
program accepts. -/
def program (direction : Direction) (p : Pattern) : Measure :=
  match direction with
  | .forward =>
    let m := start (p.startsWith .textStart)
    (p.measure .forward (m.addSteps 1)).addSteps 2
  | .backward =>
    let p := p.reversed
    let m := start (p.startsWith .textEnd)
    (p.measure .backward m).addSteps 1
where
  start (anchored : Bool) : Measure :=
    if anchored then ({} : Measure).addSteps 1
    else ((({} : Measure).addBranch 2).addSteps 1).addRanges 1

/-- Alternatives that are literals and as many as this are searched for in another way, which needs
no program. -/
def manyLiterals : Nat := 3000

/-- Whether a program for a pattern takes up no more room than it may. -/
def fits (p : Pattern) : Bool :=
  let needsNone := match p with
    | .either branches => manyLiterals ≤ branches.length && (literals? branches).isSome
    | _ => false
  needsNone || (!(p.program .forward).isTooLarge && !(p.program .backward).isTooLarge)

end Pattern

end Gleaner.Regex
