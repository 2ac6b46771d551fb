import Gleaner.Yaml.Spot
/-!
# Scalars of one flow

Plain scalars and scalars in quotes may run over several lines. One line break is then a blank, and
more of them are line breaks less the first. A Unicode separator is never made a blank.
-/
namespace Gleaner.Yaml

/-- What lies between two words of a scalar, the last character first: blanks on one line, or line
breaks. An escaped line break is no first one. -/
inductive Gap where
  | blanks (read : List Char)
  | breaks (first : Option Char) (more : List Char)

namespace Gap

def text : Gap → List Char
  | .blanks read => read
  | .breaks none more => more
  | .breaks (some c) more =>
    if c = '\n' then if more.isEmpty then [' '] else more else more ++ [c]

/-- A gap with one more blank. Blanks at the start of a line do not count. -/
def addBlank (c : Char) : Gap → Gap
  | .blanks read => .blanks (c :: read)
  | g => g

/-- A gap with one more line break. Blanks before the first one do not count. -/
def addBreak (c : Char) : Gap → Gap
  | .blanks _ => .breaks (some c) []
  | .breaks first more => .breaks first (c :: more)

def hasBreaks : Gap → Bool
  | .blanks _ => false
  | .breaks _ _ => true

def isEmpty : Gap → Bool
  | .blanks [] => true
  | _ => false

end Gap

/-- A scalar that is being read: its characters, the last one first, the gap after them, and the
position. -/
structure Draft where
  read : List Char := []
  gap : Gap := .blanks []
  position : Position

namespace Draft

def push (d : Draft) (c : Char) : Draft :=
  { d with read := c :: (d.gap.text ++ d.read), gap := .blanks [] }

def past (c : Char) (d : Draft) : Draft := { d with position := d.position.past c }

def pastAll (cs : List Char) (d : Draft) : Draft :=
  { d with position := cs.foldl (fun p c => p.past c) d.position }

def space (c : Char) (d : Draft) : Draft :=
  { d with
    gap := if isBreak c then d.gap.addBreak c else d.gap.addBlank c
    position := d.position.past c }

/-- Takes an escaped line break: what follows it joins what is before it. -/
def joinLines (c : Char) (d : Draft) : Draft :=
  { read := d.gap.text ++ d.read, gap := .breaks none []
    position := (d.position.past '\\').past c }

/-- Whether a mark between documents stands at the start of a line here. -/
def atMarker (d : Draft) (cs : List Char) : Bool :=
  d.position.column == 0 && d.gap.hasBreaks && startsMarker cs

def word (d : Draft) : String := String.ofList d.read.reverse

def whole (d : Draft) : String := String.ofList (d.gap.text ++ d.read).reverse

def spot (d : Draft) (rest : List Char) : Spot := ⟨rest, d.position⟩

end Draft

def startsPlain (inFlow : Bool) : List Char → Bool
  | [] => false
  | c :: rest =>
    if c = '-' then !endsWord rest
    else if c = '?' || c = ':' then !inFlow && !endsWord rest
    else !(isBlank c || isBreak c || "-?:,[]\x7b\x7d#&*!|>'\"%@`".toList.contains c)

/-- Reads a plain scalar, and tells whether a line break was passed after it. Outside flow
collections a line that goes on with the scalar starts at column `least` or after it, and nowhere
may a tab stand before that column. -/
def plainFrom (inFlow : Bool) (least : Nat) (d : Draft) : List Char → Option (String × Bool × Spot)
  | [] => some (d.word, d.gap.hasBreaks, d.spot [])
  | c :: rest =>
    if isBlank c || isBreak c then
      if c = '\t' && d.gap.hasBreaks && d.position.column < least then none
      else plainFrom inFlow least (d.space c) rest
    else if (c = '#' && !d.gap.isEmpty) || d.atMarker (c :: rest) ||
        (!inFlow && d.gap.hasBreaks && d.position.column < least) ||
        (c = ':' && endsWord rest) || (inFlow && isFlowMark c) then
      some (d.word, d.gap.hasBreaks, d.spot (c :: rest))
    else if inFlow && c = ':' && rest.head?.any (fun n => isFlowMark n || n == '?') then none
    else plainFrom inFlow least ((d.push c).past c) rest

def singleFrom (d : Draft) : List Char → Option (String × Spot)
  | [] => none
  | '\'' :: '\'' :: rest => singleFrom ((d.push '\'').pastAll ['\'', '\'']) rest
  | '\'' :: rest => some (d.whole, (d.past '\'').spot rest)
  | c :: rest =>
    if isBlank c || isBreak c then singleFrom (d.space c) rest
    else if d.atMarker (c :: rest) then none
    else singleFrom ((d.push c).past c) rest

def escapeLetter? : Char → Option Char
  | '0' => some '\x00'
  | 'a' => some '\x07'
  | 'b' => some '\x08'
  | 't' => some '\t'
  | '\t' => some '\t'
  | 'n' => some '\n'
  | 'v' => some '\x0b'
  | 'f' => some '\x0c'
  | 'r' => some '\r'
  | 'e' => some '\x1b'
  | ' ' => some ' '
  | '"' => some '"'
  | '/' => some '/'
  | '\\' => some '\\'
  | 'N' => some '\u0085'
  | '_' => some '\u00a0'
  | 'L' => some '\u2028'
  | 'P' => some '\u2029'
  | _ => none

def doubleFrom (d : Draft) : List Char → Option (String × Spot)
  | [] => none
  | '"' :: rest => some (d.whole, (d.past '"').spot rest)
  | '\\' :: 'x' :: a :: b :: rest => match Text.numberedChar? [a, b] with
    | some c => doubleFrom ((d.push c).pastAll ['\\', 'x', a, b]) rest
    | none => none
  | '\\' :: 'u' :: a :: b :: c :: e :: rest => match Text.numberedChar? [a, b, c, e] with
    | some o => doubleFrom ((d.push o).pastAll ['\\', 'u', a, b, c, e]) rest
    | none => none
  | '\\' :: 'U' :: a :: b :: c :: e :: f :: g :: h :: i :: rest =>
    match Text.numberedChar? [a, b, c, e, f, g, h, i] with
    | some o => doubleFrom ((d.push o).pastAll ['\\', 'U', a, b, c, e, f, g, h, i]) rest
    | none => none
  | '\\' :: c :: rest =>
    if isBreak c then doubleFrom (d.joinLines c) rest
    else match escapeLetter? c with
      | some o => doubleFrom ((d.push o).pastAll ['\\', c]) rest
      | none => none
  | c :: rest =>
    if isBlank c || isBreak c then doubleFrom (d.space c) rest
    else if d.atMarker (c :: rest) then none
    else doubleFrom ((d.push c).past c) rest

end Gleaner.Yaml
