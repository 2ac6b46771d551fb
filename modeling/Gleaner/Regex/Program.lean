import Gleaner.Regex.Pattern
import Gleaner.Regex.Property
/-!
# Programs

A program is an array of instructions that name each other by index. A pattern is compiled from
back to front: `Program.add` is told where to go on and gives the index where the pattern starts.
A search keeps the indices that are reachable at the current place of a text, and starts anew at
every place. Places lie between bytes, and a match of nothing may be found between the bytes of one
character; such a match does not count, but the search starts afresh behind it.
-/
namespace Gleaner.Regex

open Gleaner.Unicode

/-- One step of a program. -/
inductive Instruction where
  | char (chars : CharSet) (next : Nat)
  | split (targets : List Nat)
  | look (condition : Look) (next : Nat)
  | accept

structure Program where
  code : Array Instruction
  entry : Nat

namespace Program

def emit : Program → Instruction → Program
  | ⟨code, _⟩, i =>
    let start := code.size
    ⟨code.push i, start⟩

def addChars (s : CharSet) : Program → Program
  | ⟨code, next⟩ => emit ⟨code, next⟩ (.char s next)

def accepting : Program := ⟨#[.accept], 0⟩

def setTargets (i : Nat) (targets : List Nat) : Program → Program
  | ⟨code, entry⟩ => ⟨code.setIfInBounds i (.split targets), entry⟩

/-- Appends a loop around what `body` adds in front of it. -/
def loop (body : Program → Program) : Program → Program
  | ⟨code, exit⟩ =>
    let start := code.size
    match body ⟨code.push (.split []), start⟩ with
    | ⟨code, first⟩ => setTargets start [first, exit] ⟨code, start⟩

def iterate (body : Program → Program) : Nat → Program → Program
  | 0, p => p
  | n + 1, p => iterate body n (body p)

/-- Makes what `body` adds optional: the way around it leads to `exit`. -/
def optional (body : Program → Program) (exit : Nat) (p : Program) : Program :=
  match body p with
  | ⟨code, first⟩ => emit ⟨code, first⟩ (.split [first, exit])

mutual
/-- Puts a pattern in front of a program, the sequences in it being in reverse. -/
def add : Pattern → Program → Program
  | .empty, p => p
  | .literal chars, p => chars.foldr (fun c p => addChars (.singleton c) p) p
  | .set s _, p => addChars s p
  | .look l, ⟨code, next⟩ => emit ⟨code, next⟩ (.look l next)
  | .capture _ inner, p => add inner p
  | .times inner min max _, ⟨code, exit⟩ =>
    let rest := match max with
      | none => loop (add inner) ⟨code, exit⟩
      | some max => iterate (optional (add inner) exit) (max - min) ⟨code, exit⟩
    iterate (add inner) min rest
  | .concat parts, p => addAll parts p
  | .either branches, ⟨code, next⟩ =>
    match addBranches [] next branches code with
    | (code, starts) => emit ⟨code, next⟩ (.split starts)
def addAll : List Pattern → Program → Program
  | [], p => p
  | part :: rest, p => addAll rest (add part p)
/-- Appends patterns that all go on at `next`. Gives the indices where they start, behind those in
`starts`, which are in reverse. -/
def addBranches (starts : List Nat) (next : Nat) : List Pattern → Array Instruction →
    Array Instruction × List Nat
  | [], code => (code, starts.reverse)
  | branch :: rest, code =>
    match add branch ⟨code, next⟩ with
    | ⟨code, first⟩ => addBranches (first :: starts) next rest code
end

def ofPattern (pattern : Pattern) : Program := add pattern.reversed accepting

end Program

def isWordAt (unicode : Bool) (c : Option Char) : Bool :=
  c.any fun c => (LetterClass.chars unicode .word).contains c.toNat

/-- Whether a condition holds between two characters, or at an end of the text where one of them is
missing. -/
def Look.holds (previous next : Option Char) : Look → Bool
  | .textStart => previous.isNone
  | .textEnd => next.isNone
  | .lineStart => previous.all (· == '\n')
  | .lineEnd => next.all (· == '\n')
  | .lineStartCrlf => previous.all fun c => c == '\n' || (c == '\r' && next != some '\n')
  | .lineEndCrlf => next.all fun c => c == '\r' || (c == '\n' && previous != some '\r')
  | .wordBoundary u => isWordAt u previous != isWordAt u next
  | .notWordBoundary u => isWordAt u previous == isWordAt u next
  | .wordStart u => !isWordAt u previous && isWordAt u next
  | .wordEnd u => isWordAt u previous && !isWordAt u next
  | .wordStartHalf u => !isWordAt u previous
  | .wordEndHalf u => !isWordAt u next

/-- Whether a condition holds between two bytes of one character. Neither side is a word character
there, and no condition that asks about letters beyond ASCII holds. -/
def Look.holdsInside : Look → Bool
  | .notWordBoundary u => !u
  | .wordStartHalf u => !u
  | .wordEndHalf u => !u
  | _ => false

namespace Program

/-- What is reachable at a place: whether the program accepts there, and the instructions that wait
for a character. -/
structure Reached where
  accepted : Bool
  waiting : List (CharSet × Nat)

/-- Follows the indices in `stack` without stepping over a character, by conditions as `holds` says.
Every index is followed once and then has the stamp, so as many steps as there are references in
the program are enough. -/
def follow (code : Array Instruction) (holds : Look → Bool) (stamp : Nat) :
    (fuel : Nat) → (stamps : Array Nat) → (waiting : List (CharSet × Nat)) → (stack : List Nat) →
    Array Nat × Reached
  | 0, stamps, waiting, _ => (stamps, ⟨false, waiting⟩)
  | _, stamps, waiting, [] => (stamps, ⟨false, waiting⟩)
  | fuel + 1, stamps, waiting, i :: stack =>
    if stamps.getD i stamp = stamp then follow code holds stamp fuel stamps waiting stack
    else
      let stamps := stamps.setIfInBounds i stamp
      match code[i]? with
      | some (.char s target) =>
        follow code holds stamp fuel stamps ((s, target) :: waiting) stack
      | some (.split targets) => follow code holds stamp fuel stamps waiting (targets ++ stack)
      | some (.look l target) =>
        let stack := if holds l then target :: stack else stack
        follow code holds stamp fuel stamps waiting stack
      | some .accept => (stamps, ⟨true, waiting⟩)
      | none => follow code holds stamp fuel stamps waiting stack

def references (code : Array Instruction) : Nat :=
  code.foldl (fun n i => match i with
    | .split targets => n + targets.length
    | _ => n + 1) 0

def acceptsInside (p : Program) : Bool :=
  let (_, reached) := follow p.code Look.holdsInside 1 (references p.code + 2)
    (Array.replicate p.code.size 0) [] [p.entry]
  reached.accepted

def asksUnicode (p : Program) : Bool :=
  p.code.any fun i => match i with
    | .look l _ => l.asksUnicode
    | _ => false

/-- Searches a text from a place on: `threads` are the indices reachable there by stepping over the
character before it. With `dropping`, a character of several bytes is not stepped over, because a
match of nothing lies between its bytes. -/
def search (p : Program) (size : Nat) (dropping : Bool) (place : Nat) (stamps : Array Nat)
    (previous : Option Char) (threads : List Nat) : List Char → Bool
  | [] => (start stamps none).2.accepted
  | c :: rest =>
    let (stamps, reached) := start stamps (some c)
    if reached.accepted then true
    else
      let next :=
        if dropping ∧ 1 < c.utf8Size then []
        else reached.waiting.filterMap fun (s, target) =>
          if s.contains c.toNat then some target else none
      p.search size dropping (place + 1) stamps (some c) next rest
where
  /-- What is reachable at this place, from here or from before. -/
  start (stamps : Array Nat) (next : Option Char) : Array Nat × Reached :=
    follow p.code (·.holds previous next) place (size + threads.length + 2) stamps []
      (p.entry :: threads)

def shortText : Nat := 128

/-- Whether some part of a text matches. Short texts are searched in another way for conditions on
words with letters beyond ASCII, and then matches of nothing inside a character are passed over. -/
def matchesSomewhere (p : Program) (text : String) : Bool :=
  let passesOver := p.asksUnicode && text.utf8ByteSize ≤ shortText
  p.search (references p.code) (!passesOver && p.acceptsInside) 1
    (Array.replicate p.code.size 0) none [] text.toList

end Program

end Gleaner.Regex
