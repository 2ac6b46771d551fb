import Gleaner.Regex.Escape
/-!
# Bracketed classes

A bracketed class lists characters, ranges and other classes, negates them, and combines them by
operations on sets. Brackets nest; those that are still open wait on a stack.
-/
namespace Gleaner.Regex

open Gleaner.Unicode

/-- A part of a bracketed class: its characters and its nesting depth. -/
structure ClassPiece where
  set : CharSet
  depth : Nat := 0

inductive SetOperation where
  | inter | diff | symmDiff

/-- A bracket that is open: whether it negates, the operation that waits for its right side, and
the parts read since, the last one first. -/
structure Bracket where
  negated : Bool
  waiting : Option (SetOperation × ClassPiece) := none
  items : List ClassPiece := []

namespace ClassPiece

/-- The union of parts. Two or more of them nest one level deeper. -/
def union (items : List ClassPiece) : ClassPiece :=
  match items with
  | [] => ⟨.empty, 0⟩
  | [item] => item
  | items =>
    ⟨.ofRanges (items.flatMap (·.set.ranges)), 1 + (items.map (·.depth)).foldl max 0⟩

/-- The result of an operation on two parts, case variants added to both. -/
def operate (flags : Flags) (op : SetOperation) (left right : ClassPiece) : ClassPiece :=
  let a := flags.fold left.set
  let b := flags.fold right.set
  let result := match op with
    | .inter => a.inter b
    | .diff => a.diff b
    | .symmDiff => a.symmDiff b
  ⟨result, 1 + max left.depth right.depth⟩

end ClassPiece

namespace Bracket

/-- What has been read in a bracket so far, the waiting operation carried out. -/
def total (flags : Flags) (b : Bracket) : ClassPiece :=
  let right := ClassPiece.union b.items.reverse
  match b.waiting with
  | none => right
  | some (op, left) => .operate flags op left right

def add (b : Bracket) (item : ClassPiece) : Bracket := { b with items := item :: b.items }

end Bracket

/-- The character of a literal in a class. Without Unicode only ASCII may stand there. -/
def classChar? (flags : Flags) (l : Literal) : Option Char :=
  if flags.unicode ∨ l.char.toNat < 0x80 then some l.char else none

def readClassPrimitive (flags : Flags) : List Char → Option (Primitive × List Char)
  | [] => none
  | c :: rest => if c = '\\' then readEscape flags rest else some (.literal ⟨c, false⟩, rest)

def peekAfterHyphen (flags : Flags) (rest : List Char) : Option Char :=
  if !flags.ignoreBlanks then rest.head?
  else match rest.dropWhile isBlank with
    | '#' :: after => ((after.dropWhile isBlank).head?).or rest.head?
    | c :: _ => some c
    | [] => rest.head?

def readClassItem (flags : Flags) (cs : List Char) : Option (ClassPiece × List Char) := do
  let (first, rest) ← readClassPrimitive flags cs
  let single : Option ClassPiece := match first with
    | .literal l => (classChar? flags l).map fun c => ⟨.singleton c, 0⟩
    | .set s => some ⟨s, 0⟩
    | .look _ => none
  match skip flags rest with
  | [] => none
  | '-' :: after =>
    let next := peekAfterHyphen flags after
    if next = some ']' ∨ next = some '-' then (← single, '-' :: after)
    else do
      let (last, rest) ← readClassPrimitive flags (skip flags after)
      match first, last with
      | .literal a, .literal b =>
        let a ← classChar? flags a
        let b ← classChar? flags b
        if a.toNat ≤ b.toNat then some (⟨.ofRange a.toNat b.toNat, 0⟩, rest) else none
      | _, _ => none
  | c :: after => (← single, c :: after)

/-- Takes the hyphens at the start of a bracket, each of which means itself. -/
def takeHyphens (flags : Flags) (items : List ClassPiece) (cs : List Char) :
    List ClassPiece × List Char :=
  match cs with
  | '-' :: rest => takeHyphens flags (⟨.singleton '-', 0⟩ :: items) (skip flags rest)
  | cs => (items, cs)
termination_by cs.length
decreasing_by
  have := skip_length flags rest
  simp only [List.length_cons]
  omega

/-- Opens a bracket. A closing bracket that comes first means itself. -/
def openBracket (flags : Flags) (cs : List Char) : Bracket × List Char :=
  let cs := skip flags cs
  let (negated, cs) := match cs with
    | '^' :: rest => (true, skip flags rest)
    | cs => (false, cs)
  let (items, cs) := takeHyphens flags [] cs
  match items, cs with
  | [], ']' :: rest => ({ negated, items := [⟨.singleton ']', 0⟩] }, skip flags rest)
  | items, cs => ({ negated, items }, cs)

/-- Reads a name such as `[:alpha:]` after its bracket, if there is one. The class is missing when
the name is negated and its negation is refused. -/
def readBracketName (flags : Flags) (cs : List Char) : Option (Option CharSet × List Char) :=
  match cs with
  | ':' :: rest =>
    let (negated, rest) := match rest with
      | '^' :: rest => (true, rest)
      | rest => (false, rest)
    match rest.dropWhile (· != ':') with
    | ':' :: ']' :: after =>
      (bracketName? (rest.takeWhile (· != ':'))).map fun s => (flags.close? negated s, after)
    | _ => none
  | _ => none

/-- Reads a class up to its last closing bracket; `outer` holds the brackets around `inner`. -/
def readClass (flags : Flags) : (fuel : Nat) → (inner : Bracket) → (outer : List Bracket) →
    List Char → Option (ClassPiece × List Char)
  | 0, _, _, _ => none
  | fuel + 1, inner, outer, cs =>
    let operation (op : SetOperation) (rest : List Char) :=
      readClass flags fuel
        { inner with waiting := some (op, inner.total flags), items := [] } outer rest
    match skip flags cs with
    | [] => none
    | '[' :: rest =>
      match readBracketName flags rest with
      | some (some s, rest) => readClass flags fuel (inner.add ⟨s, 0⟩) outer rest
      | some (none, _) => none
      | none =>
        let (bracket, rest) := openBracket flags rest
        readClass flags fuel bracket (inner :: outer) rest
    | ']' :: rest =>
      match flags.close? inner.negated (inner.total flags).set with
      | none => none
      | some s =>
        let item : ClassPiece := ⟨s, 1 + (inner.total flags).depth⟩
        match outer with
        | [] => some (item, rest)
        | parent :: outer => readClass flags fuel (parent.add item) outer rest
    | '&' :: '&' :: rest => operation .inter rest
    | '-' :: '-' :: rest => operation .diff rest
    | '~' :: '~' :: rest => operation .symmDiff rest
    | cs => match readClassItem flags cs with
      | none => none
      | some (item, rest) => readClass flags fuel (inner.add item) outer rest

end Gleaner.Regex
