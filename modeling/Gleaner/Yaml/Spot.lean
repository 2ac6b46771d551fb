import Gleaner.Text.Digits
/-!
# Places in YAML texts

A `Spot` is a place in a text: what is left of the text, and the position where that starts. Readers
of the smallest parts take a spot and give what they read with the spot after it. A text is made
ready for them by `Spot.ofText?`, which refuses characters that no text may hold and writes every
line break but the two Unicode separators as `'\n'`.
-/
namespace Gleaner.Yaml

def isBlank (c : Char) : Bool := c == ' ' || c == '\t'

def isBreak (c : Char) : Bool := c == '\n' || c == '\u2028' || c == '\u2029'

def endsWord : List Char → Bool
  | [] => true
  | c :: _ => isBlank c || isBreak c

def endsLine : List Char → Bool
  | [] => true
  | c :: _ => isBreak c

/-- Whether a text starts with the given character, alone in its word. -/
def standsAlone (mark : Char) : List Char → Bool
  | c :: rest => c == mark && endsWord rest
  | [] => false

def isFlowMark (c : Char) : Bool := c == ',' || c == '[' || c == ']' || c == '{' || c == '}'

def isWordChar (c : Char) : Bool := c.isAlphanum || c == '_' || c == '-'

/-- Whether a text starts with the mark between documents or the mark at their end. -/
def startsMarker : List Char → Bool
  | '-' :: '-' :: '-' :: rest => endsWord rest
  | '.' :: '.' :: '.' :: rest => endsWord rest
  | _ => false

/-- A position in a text: its line, its column, and the bytes before it in its line. -/
structure Position where
  line : Nat := 0
  column : Nat := 0
  offset : Nat := 0
  deriving DecidableEq, Repr

def Position.past (c : Char) (p : Position) : Position :=
  if isBreak c then ⟨p.line + 1, 0, 0⟩ else ⟨p.line, p.column + 1, p.offset + c.utf8Size⟩

structure Spot where
  rest : List Char
  position : Position := {}

namespace Spot

/-- Reads characters as long as they satisfy a condition; `read` holds those before, last first. -/
def spanFrom (p : Char → Bool) (read : List Char) (place : Position) :
    List Char → List Char × Spot
  | [] => (read.reverse, ⟨[], place⟩)
  | c :: rest =>
    if p c then spanFrom p (c :: read) (place.past c) rest else (read.reverse, ⟨c :: rest, place⟩)

def span (p : Char → Bool) (s : Spot) : List Char × Spot := spanFrom p [] s.position s.rest

def dropWhile (p : Char → Bool) (s : Spot) : Spot := (s.span p).2

def tail (s : Spot) : Spot :=
  match s.rest with
  | [] => s
  | c :: rest => ⟨rest, s.position.past c⟩

def startsWith (c : Char) (s : Spot) : Bool := s.rest.head? == some c

/-- Passes over blanks and a comment to the end of the line and over its break. Nothing else may
stand there. -/
def endLine? (s : Spot) : Option Spot :=
  let s := s.dropWhile isBlank
  let s := if s.startsWith '#' then s.dropWhile fun c => !isBreak c else s
  if endsLine s.rest then some s.tail else none

end Spot

/-- Line breaks written alike, the two Unicode separators left as they are. -/
def normalBreaks : List Char → List Char
  | '\r' :: '\n' :: rest => '\n' :: normalBreaks rest
  | '\r' :: rest => '\n' :: normalBreaks rest
  | '\u0085' :: rest => '\n' :: normalBreaks rest
  | c :: rest => c :: normalBreaks rest
  | [] => []

def isAllowed (c : Char) : Bool :=
  c == '\t' || c == '\n' || c == '\r' || c == '\u0085' ||
    (0x20 ≤ c.toNat && c.toNat ≤ 0x7E) ||
    (0xA0 ≤ c.toNat && c.toNat ≤ 0xFFFD && c.toNat != 0xFEFF) ||
    0x10000 ≤ c.toNat

/-- The start of a text. A mark of the byte order may stand in front of it. -/
def Spot.ofText? (text : String) : Option Spot :=
  let cs := match text.toList with
    | '\ufeff' :: rest => rest
    | cs => cs
  if cs.all isAllowed then some ⟨normalBreaks cs, {}⟩ else none

end Gleaner.Yaml
