import Gleaner.Yaml.Spot
/-!
# Scalars of indented lines

A literal scalar keeps the line breaks between its lines, and a folded one turns a single line break
between two words into a blank. The lines start at one column, which is written in the header or
taken from the first line with something in it. The header also tells what becomes of the line
breaks at the end.
-/
namespace Gleaner.Yaml

/-- What becomes of the line breaks at the end: none is kept, the first one, or all of them. -/
inductive Chomp where
  | strip | clip | keep
  deriving DecidableEq, Repr

structure BlockHeader where
  chomp : Chomp := .clip
  /-- How many columns further in than the block around it the lines start. -/
  indent : Option Nat := none

namespace BlockHeader

def readChomp (s : Spot) : Chomp × Spot :=
  if s.startsWith '+' then (.keep, s.tail)
  else if s.startsWith '-' then (.strip, s.tail)
  else (.clip, s)

/-- Reads a number of columns, one digit but zero, if there is one. -/
def readIndent? (s : Spot) : Option (Option Nat × Spot) :=
  match s.rest.head? with
  | some c =>
    if c = '0' then none
    else if c.isDigit then some (some (c.toNat - '0'.toNat), s.tail)
    else some (none, s)
  | none => some (none, s)

def read? (s : Spot) : Option (BlockHeader × Spot) := do
  let (chomp, s) := readChomp s
  let (indent, s) ← readIndent? s
  let (chomp, s) := if chomp == .clip && indent.isSome then readChomp s else (chomp, s)
  return (⟨chomp, indent⟩, ← s.endLine?)

end BlockHeader

/-- An indented scalar that is being read. Characters are held the last one first. -/
structure BlockDraft where
  folded : Bool
  /-- The first column of the lines, if it is settled. -/
  indent : Option Nat
  /-- The least column that may be taken for the first one of the lines. -/
  least : Nat
  read : List Char := []
  /-- The line break after the last line read, and those after it. -/
  ending : Option Char := none
  more : List Char := []
  /-- Whether the last line started with a blank. -/
  wasBlank : Bool := false
  /-- The widest indentation met before the column is settled. -/
  widest : Nat := 0
  inLine : Bool := false
  position : Position

namespace BlockDraft

def past (c : Char) (d : BlockDraft) : BlockDraft := { d with position := d.position.past c }

def isIndenting (d : BlockDraft) : Bool := d.indent.all (d.position.column < ·)

def settle (d : BlockDraft) : BlockDraft :=
  let widest := max d.widest d.position.column
  { d with indent := some (d.indent.getD (max widest d.least)) }

/-- What the line breaks before a line that starts with `c` add. A folded line break between lines
that do not start with blanks is a blank, or nothing if more of them follow. -/
def gap (d : BlockDraft) (c : Char) : List Char :=
  if d.folded && d.ending == some '\n' && !d.wasBlank && !isBlank c then
    if d.more.isEmpty then [' '] else d.more
  else d.more ++ d.ending.toList

def startLine (c : Char) (d : BlockDraft) : BlockDraft :=
  { d with
    read := c :: (d.gap c ++ d.read), ending := none, more := []
    wasBlank := isBlank c, inLine := true, position := d.position.past c }

def text (d : BlockDraft) (chomp : Chomp) : String :=
  String.ofList (match chomp with
    | .strip => d.read
    | .clip => d.ending.toList ++ d.read
    | .keep => d.more ++ (d.ending.toList ++ d.read)).reverse

/-- Reads the lines of a scalar. A tab may not stand in their indentation. -/
def linesFrom (d : BlockDraft) : List Char → Option (BlockDraft × Spot)
  | [] => some (d, ⟨[], d.position⟩)
  | c :: rest =>
    if d.inLine then
      if isBreak c then linesFrom { d.past c with ending := some c, inLine := false } rest
      else linesFrom { d.past c with read := c :: d.read } rest
    else if d.isIndenting && c = ' ' then linesFrom (d.past c) rest
    else if d.isIndenting && c = '\t' then none
    else if isBreak c then
      let widest := max d.widest d.position.column
      linesFrom { d.past c with more := c :: d.more, widest := widest } rest
    else
      let d := d.settle
      if d.indent == some d.position.column then linesFrom (d.startLine c) rest
      else some (d, ⟨c :: rest, d.position⟩)

end BlockDraft

/-- Reads an indented scalar after its mark. `outer` is the column of the block around it. -/
def readBlock? (folded : Bool) (outer : Option Nat) (s : Spot) : Option (String × Spot) := do
  let (header, s) ← BlockHeader.read? s
  let draft : BlockDraft := {
    folded := folded
    indent := header.indent.map (outer.getD 0 + ·)
    least := outer.elim 1 (· + 1)
    position := s.position }
  let (draft, s) ← draft.linesFrom s.rest
  return (draft.text header.chomp, s)

end Gleaner.Yaml
