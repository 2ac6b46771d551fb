import Gleaner.Regex.Flags
import Gleaner.Regex.Pattern
import Gleaner.Text.Digits
/-!
# Escapes

What follows a backslash: a character that means itself, a character by its number, a named class of
characters, a property, or a condition.
-/
namespace Gleaner.Regex

open Gleaner.Unicode

/-- A character of a pattern. One written as two hexadecimal digits is a byte when Unicode does not
count. -/
structure Literal where
  char : Char
  isByte : Bool := false

inductive Primitive where
  | literal (l : Literal)
  | look (condition : Look)
  | set (chars : CharSet)

/-- The next `n` characters, blanks left out if they do not count. -/
def takeDigits (flags : Flags) (read : List Char) : Nat → List Char → Option (List Char × List Char)
  | 0, cs => some (read.reverse, cs)
  | _ + 1, [] => none
  | n + 1, c :: rest => takeDigits flags (c :: read) n (skip flags rest)

/-- Reads a character in hexadecimal after its letter, which says how many digits there are unless
they stand between braces. -/
def readHex (flags : Flags) (letter : Char) (cs : List Char) : Option (Literal × List Char) :=
  match skip flags cs with
  | '\x7b' :: rest => do
    let (digits, rest) ← untilBrace flags [] false rest
    let c ← Text.numberedChar? digits
    return (⟨c, false⟩, rest)
  | cs => do
    let count := if letter = 'x' then 2 else if letter = 'u' then 4 else 8
    let (digits, rest) ← takeDigits flags [] count cs
    let c ← Text.numberedChar? digits
    return (⟨c, letter = 'x'⟩, rest)

def readProperty (flags : Flags) (negated : Bool) (cs : List Char) :
    Option (CharSet × List Char) := do
  let (written, rest) ← match skip flags cs with
    | [] => none
    | '\x7b' :: rest => untilBrace flags [] false rest
    | c :: rest => if c = '\\' then none else some ([c], rest)
  if !flags.unicode then none
  else
    let single := match skip flags cs with
      | '\x7b' :: _ => false
      | _ => true
    let s ← if single then property? (normalName written) else propertyQuery? written
    let s ← flags.close? negated s
    return (s, rest)

def isMeta (c : Char) : Bool := "\\.+*?()|[]\x7b\x7d^$#&-~".toList.contains c

/-- Whether a backslash may stand before a character that means itself: any ASCII character but
letters, digits and angle brackets. -/
def isEscapable (c : Char) : Bool :=
  isMeta c || (c.toNat < 0x80 && !c.isAlphanum && c != '<' && c != '>')

def namedBoundary? (unicode : Bool) (name : String) : Option Look :=
  if name = "start" then some (.wordStart unicode)
  else if name = "end" then some (.wordEnd unicode)
  else if name = "start-half" then some (.wordStartHalf unicode)
  else if name = "end-half" then some (.wordEndHalf unicode)
  else none

/-- Reads what may follow the escape of a word boundary: a name between braces. Braces that start
with anything else are a repetition. -/
def readBoundary (flags : Flags) (cs : List Char) : Option (Look × List Char) :=
  match cs with
  | '\x7b' :: rest => do
    let (name, after) ← untilBrace flags [] false rest
    match name with
    | [] => some (.wordBoundary flags.unicode, cs)
    | c :: _ =>
      if c.isAlpha ∨ c = '-' then do
        let look ← namedBoundary? flags.unicode (String.ofList name)
        return (look, after)
      else some (.wordBoundary flags.unicode, cs)
  | _ => some (.wordBoundary flags.unicode, cs)

def readEscape (flags : Flags) : List Char → Option (Primitive × List Char)
  | [] => none
  | c :: rest =>
    let letterClass (cls : LetterClass) (negated : Bool) : Option (Primitive × List Char) :=
      (flags.negate? negated (cls.chars flags.unicode)).map fun s => (.set s, rest)
    let literal (c : Char) : Option (Primitive × List Char) := some (.literal ⟨c, false⟩, rest)
    let look (l : Look) : Option (Primitive × List Char) := some (.look l, rest)
    if c = 'x' ∨ c = 'u' ∨ c = 'U' then
      (readHex flags c rest).map fun (l, rest) => (.literal l, rest)
    else if c = 'p' ∨ c = 'P' then
      (readProperty flags (c = 'P') rest).map fun (s, rest) => (.set s, rest)
    else if isEscapable c then literal c
    else match c with
      | 'd' => letterClass .digit false
      | 'D' => letterClass .digit true
      | 's' => letterClass .blank false
      | 'S' => letterClass .blank true
      | 'w' => letterClass .word false
      | 'W' => letterClass .word true
      | 'a' => literal '\x07'
      | 'f' => literal '\x0c'
      | 't' => literal '\t'
      | 'n' => literal '\n'
      | 'r' => literal '\r'
      | 'v' => literal '\x0b'
      | 'A' => look .textStart
      | 'z' => look .textEnd
      | 'B' => look (.notWordBoundary flags.unicode)
      | '<' => look (.wordStart flags.unicode)
      | '>' => look (.wordEnd flags.unicode)
      | 'b' => (readBoundary flags rest).map fun (l, rest) => (.look l, rest)
      | _ => none

end Gleaner.Regex
