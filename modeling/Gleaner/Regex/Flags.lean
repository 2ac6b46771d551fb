import Gleaner.Regex.Property
/-!
# Flags

Flags hold from where they are written to the end of their group. They say which case variants
count, which characters a negated set has, whether repetitions prefer fewer rounds, and whether
blanks and comments count.
-/
namespace Gleaner.Regex

open Gleaner.Unicode

structure Flags where
  ignoreCase : Bool := false
  multiLine : Bool := false
  dotAll : Bool := false
  unicode : Bool := true
  crlf : Bool := false
  ignoreBlanks : Bool := false
  fewestFirst : Bool := false
  deriving DecidableEq, Repr

namespace Flags

def set? (flags : Flags) (letter : Char) (value : Bool) : Option Flags :=
  match letter with
  | 'i' => some { flags with ignoreCase := value }
  | 'm' => some { flags with multiLine := value }
  | 's' => some { flags with dotAll := value }
  | 'U' => some { flags with fewestFirst := value }
  | 'u' => some { flags with unicode := value }
  | 'R' => some { flags with crlf := value }
  | 'x' => some { flags with ignoreBlanks := value }
  | _ => none

/-- The case variants that count as equal to the characters of a set. -/
def fold (flags : Flags) (s : CharSet) : CharSet :=
  if !flags.ignoreCase then s
  else if flags.unicode then s.foldCase
  else
    let small := (s.inter ⟨[(0x41, 0x5A)]⟩).ranges.map fun r => (r.1 + 32, r.2 + 32)
    let large := (s.inter ⟨[(0x61, 0x7A)]⟩).ranges.map fun r => (r.1 - 32, r.2 - 32)
    .ofRanges (s.ranges ++ small ++ large)

/-- The characters outside a set. Without Unicode these would be bytes, and a set of bytes that are
not ASCII is refused. -/
def complement? (flags : Flags) (s : CharSet) : Option CharSet :=
  if flags.unicode then some s.compl
  else if s.complByte.ranges.all (·.2 < 0x80) then some s.complByte else none

def negate? (flags : Flags) (negated : Bool) (s : CharSet) : Option CharSet :=
  if negated then flags.complement? s else some s

/-- A set as a bracketed class means it: variants are added first, and then it is negated. -/
def close? (flags : Flags) (negated : Bool) (s : CharSet) : Option CharSet :=
  flags.negate? negated (flags.fold s)

end Flags

/-- Leaves out blanks and comments. A comment goes from `#` to the end of its line. -/
def skipBlanks (inComment : Bool) : List Char → List Char
  | [] => []
  | c :: rest =>
    if inComment then skipBlanks (c != '\n') rest
    else if isBlank c then skipBlanks false rest
    else if c = '#' then skipBlanks true rest
    else c :: rest

def skip (flags : Flags) (cs : List Char) : List Char :=
  if flags.ignoreBlanks then skipBlanks false cs else cs

theorem skipBlanks_length (inComment : Bool) (cs : List Char) :
    (skipBlanks inComment cs).length ≤ cs.length := by
  fun_induction skipBlanks inComment cs <;> simp_all <;> omega

theorem skip_length (flags : Flags) (cs : List Char) : (skip flags cs).length ≤ cs.length := by
  unfold skip
  split
  · exact skipBlanks_length false cs
  · exact Nat.le_refl _

def untilBrace (flags : Flags) (read : List Char) (inComment : Bool) :
    List Char → Option (List Char × List Char)
  | [] => none
  | c :: rest =>
    if inComment then untilBrace flags read (c != '\n') rest
    else if flags.ignoreBlanks ∧ isBlank c then untilBrace flags read false rest
    else if flags.ignoreBlanks ∧ c = '#' then untilBrace flags read true rest
    else if c = '\x7d' then some (read.reverse, rest)
    else untilBrace flags (c :: read) false rest

end Gleaner.Regex
