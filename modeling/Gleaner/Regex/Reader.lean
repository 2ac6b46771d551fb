import Gleaner.Regex.Bracket
import Gleaner.Regex.Group
import Gleaner.Regex.Normal
import Gleaner.Regex.Repetition
/-!
# Reading regular expressions

A regular expression is read from left to right. Flags hold from where they are written to the end
of their group, so each part gets its meaning as soon as it is read: `Piece` is a part with its
meaning and its nesting depth. Groups that are still open wait on a stack. The reader refuses
whatever could match something that is not text.
-/
namespace Gleaner.Regex

open Gleaner.Unicode

/-- The greatest nesting of groups, classes, alternatives, sequences and repetitions. -/
def maxNesting : Nat := 250

/-- A part of a pattern as read: its meaning, its nesting depth, and whether it can be repeated. -/
structure Piece where
  pattern : Pattern
  depth : Nat := 0
  repeatable : Bool := true

namespace Piece

def concat (parts : List Piece) : Piece :=
  match parts with
  | [] => ⟨.empty, 0, true⟩
  | [p] => p
  | parts => ⟨.sequence (parts.map (·.pattern)), 1 + (parts.map (·.depth)).foldl max 0, true⟩

def either (branches : List Piece) : Piece :=
  match branches with
  | [p] => p
  | branches =>
    ⟨.alternatives (branches.map (·.pattern)), 1 + (branches.map (·.depth)).foldl max 0, true⟩

def times (p : Piece) (min : Nat) (max : Option Nat) (greedy : Bool) : Piece :=
  ⟨p.pattern.rounds min max greedy, 1 + p.depth, true⟩

end Piece

/-- What is being read at one level: the alternatives that are finished and the parts of the one
that is not, the last of them first. -/
structure Level where
  branches : List Piece := []
  parts : List Piece := []

namespace Level

def add (l : Level) (p : Piece) : Level := { l with parts := p :: l.parts }

def branch (l : Level) : Piece := .concat l.parts.reverse

def nextBranch (l : Level) : Level := { branches := l.branch :: l.branches, parts := [] }

def total (l : Level) : Piece := .either (l.branch :: l.branches).reverse

def repeatLast (l : Level) (min : Nat) (max : Option Nat) (greedy : Bool) : Option Level :=
  match l.parts with
  | p :: rest =>
    if p.repeatable then some { l with parts := p.times min max greedy :: rest } else none
  | [] => none

end Level

/-- A group that is open: what surrounds it, the flags there, and its number if it captures. -/
structure Enclosing where
  level : Level
  flags : Flags
  index : Option Nat

structure Reading where
  flags : Flags
  level : Level := {}
  outer : List Enclosing := []
  names : List (List Char) := []
  captures : Nat := 0

/-- The meaning of a literal. Without Unicode a byte beyond ASCII is refused. -/
def literalPattern? (flags : Flags) (l : Literal) : Option Pattern :=
  if !flags.unicode ∧ l.isByte ∧ 0x80 ≤ l.char.toNat then none
  else some (.ofSet (flags.fold (.singleton l.char)) flags.unicode)

def lineLook (flags : Flags) (start : Bool) : Look :=
  match flags.multiLine, flags.crlf, start with
  | false, _, true => .textStart
  | false, _, false => .textEnd
  | true, false, true => .lineStart
  | true, false, false => .lineEnd
  | true, true, true => .lineStartCrlf
  | true, true, false => .lineEndCrlf

/-- The characters that a point stands for. It always needs Unicode. -/
def dotSet? (flags : Flags) : Option CharSet :=
  if !flags.unicode then none
  else if flags.dotAll then some .all
  else if flags.crlf then some (CharSet.ofRanges [(10, 10), (13, 13)]).compl
  else some (CharSet.singleton '\n').compl

namespace Reading

def add (r : Reading) (p : Pattern) (depth : Nat) : Reading :=
  { r with level := r.level.add ⟨p, depth, true⟩ }

def opened (r : Reading) (cs : List Char) : Option (Reading × List Char) := do
  let (opening, rest) ← readOpening r.flags cs
  match opening with
  | .setFlags flags =>
    return ({ r with flags, level := r.level.add ⟨.empty, 0, false⟩ }, rest)
  | .group flags capturing name =>
    let names ← match name with
      | none => some r.names
      | some n => if r.names.contains n then none else some (n :: r.names)
    let index := if capturing then some (r.captures + 1) else none
    return ({ flags, names, outer := ⟨r.level, r.flags, index⟩ :: r.outer,
              captures := index.getD r.captures }, rest)

def closed (r : Reading) : Option Reading :=
  match r.outer with
  | [] => none
  | e :: outer =>
    let inner := r.level.total
    let pattern := match e.index with
      | some i => .capture i inner.pattern
      | none => inner.pattern
    some { flags := e.flags, level := e.level.add ⟨pattern, 1 + inner.depth, true⟩, outer,
           names := r.names, captures := r.captures }

def repeated (r : Reading) (min : Nat) (max : Option Nat) (rest : List Char) :
    Option (Reading × List Char) :=
  let (marked, rest) := readMark rest
  (r.level.repeatLast min max (marked == r.flags.fewestFirst)).map fun level =>
    ({ r with level }, rest)

/-- Reads the part that starts with `c`. There are at most `fuel` characters left. -/
def step (r : Reading) (fuel : Nat) (c : Char) (rest : List Char) :
    Option (Reading × List Char) :=
  match c with
  | '(' => r.opened rest
  | ')' => r.closed.map fun r => (r, rest)
  | '|' => some ({ r with level := r.level.nextBranch }, rest)
  | '[' => do
    let (bracket, inside) := openBracket r.flags rest
    let (item, rest) ← readClass r.flags (fuel + 1) bracket [] inside
    return (r.add (.ofSet item.set r.flags.unicode) item.depth, rest)
  | '?' => r.repeated 0 (some 1) rest
  | '*' => r.repeated 0 none rest
  | '+' => r.repeated 1 none rest
  | '\x7b' => do
    let ((min, max), rest) ← readBounds r.flags rest
    r.repeated min max (skip r.flags rest)
  | '\\' => do
    let (primitive, rest) ← readEscape r.flags rest
    match primitive with
    | .literal l => return (r.add (← literalPattern? r.flags l) 0, rest)
    | .look l => return (r.add (.look l) 0, rest)
    | .set s => return (r.add (.ofSet s r.flags.unicode) 0, rest)
  | '.' => do return (r.add (.ofSet (← dotSet? r.flags) true) 0, rest)
  | '^' => some (r.add (.look (lineLook r.flags true)) 0, rest)
  | '$' => some (r.add (.look (lineLook r.flags false)) 0, rest)
  | c => do return (r.add (← literalPattern? r.flags ⟨c, false⟩) 0, rest)

def run : (fuel : Nat) → Reading → List Char → Option Reading
  | 0, _, _ => none
  | fuel + 1, r, cs => match skip r.flags cs with
    | [] => some r
    | c :: rest => match r.step fuel c rest with
      | none => none
      | some (r, rest) => run fuel r rest

end Reading

/-- The meaning of a regular expression, if it is well formed. -/
def read? (pattern : String) (ignoreCase : Bool) : Option Pattern := do
  let cs := pattern.toList
  let r ← Reading.run (cs.length + 1) { flags := { ignoreCase } } cs
  let whole := r.level.total
  if r.outer.isEmpty ∧ whole.depth ≤ maxNesting then some whole.pattern else none

end Gleaner.Regex
