import Gleaner.Json.Text
import Gleaner.Yaml.Tag
import Gleaner.Yaml.Value
/-!
# Scalars as written

A text writes a scalar plain, between quotes or as indented lines, and may put a tag on it. What it
means depends on where it stands: a field of text takes it as spelled, and elsewhere its tag, or the
spelling of a plain one, settles whether it is null, a boolean, a number or a string. `Legible` is
what the readers of records ask of a scalar, so that they read texts and values alike.
-/
namespace Gleaner.Yaml

inductive Style where
  | plain | quoted | literal | folded
  deriving DecidableEq, Repr, Inhabited

structure Spelling where
  text : String
  style : Style := .plain
  tag : Tag := .absent
  deriving DecidableEq, Repr, Inhabited

abbrev Source := Yaml Spelling

def Source.empty : Source := .scalar ⟨"", .plain, .absent⟩

namespace Spelling

def nullWords : List String := ["~", "null", "Null", "NULL"]

/-- Whether a plain scalar is null: it is empty or a word for null. -/
def isNullText (s : String) : Bool := s.isEmpty || nullWords.contains s

def trueWords : List String := ["true", "True", "TRUE"]

def falseWords : List String := ["false", "False", "FALSE"]

/-- More than one decimal digit, the first of them zero, is no number. -/
def hasLeadingZero : List Char → Bool
  | '0' :: c :: rest => (c :: rest).all Char.isDigit
  | _ => false

/-- The magnitude of an integer: decimal digits, or digits after a mark for another radix. -/
def magnitude? : List Char → Option Nat
  | '0' :: 'x' :: rest => Text.digits? 16 rest
  | '0' :: 'o' :: rest => Text.digits? 8 rest
  | '0' :: 'b' :: rest => Text.digits? 2 rest
  | cs => if hasLeadingZero cs then none else Text.digits? 10 cs

/-- An integer, with a sign perhaps. Past 128 bits a scalar is no integer. -/
def int? : List Char → Option Int
  | '-' :: rest => match magnitude? rest with
    | some n => if n ≤ Nat.pow 2 127 then some (-n) else none
    | none => none
  | '+' :: rest => match magnitude? rest with
    | some n => if n < Nat.pow 2 128 then some n else none
    | none => none
  | cs => match magnitude? cs with
    | some n => if n < Nat.pow 2 128 then some n else none
    | none => none

def exponent? : List Char → Option Int
  | [] => some 0
  | c :: rest =>
    if c = 'e' ∨ c = 'E' then
      let (negative, digits) := Json.readSign rest
      (Text.digits? 10 digits).map fun n => if negative then -n else n
    else none

def fraction : List Char → List Char × List Char
  | '.' :: rest => rest.span Char.isDigit
  | cs => ([], cs)

def decimal? (cs : List Char) : Option Binary64 :=
  let (whole, rest) := cs.span Char.isDigit
  let (places, rest) := fraction rest
  if whole.isEmpty && places.isEmpty then none
  else match exponent? rest with
    | none => none
    | some e =>
      let x := Binary64.ofDecimal (Json.decimal (whole ++ places)) (e - places.length)
      if x.isFinite then some x else none

def infinityWords : List (List Char) :=
  [['.', 'i', 'n', 'f'], ['.', 'I', 'n', 'f'], ['.', 'I', 'N', 'F']]

def nanWords : List (List Char) :=
  [['.', 'n', 'a', 'n'], ['.', 'N', 'a', 'N'], ['.', 'N', 'A', 'N']]

def unsignedFloat? (cs : List Char) : Option Binary64 :=
  if infinityWords.contains cs then some .infinity else decimal? cs

def float? : List Char → Option Binary64
  | '-' :: rest => (unsignedFloat? rest).map (·.neg)
  | '+' :: rest => unsignedFloat? rest
  | cs => if nanWords.contains cs then some .nan else unsignedFloat? cs

/-- Whether a scalar without its sign is decimal digits that make no number. -/
def isDigitString : List Char → Bool
  | '-' :: rest => hasLeadingZero rest
  | '+' :: rest => hasLeadingZero rest
  | cs => hasLeadingZero cs

def bool? (s : String) : Option Bool :=
  if trueWords.contains s then some true
  else if falseWords.contains s then some false
  else none

/-- The atom of an integer. One that does not fit 64 bits has none. -/
def intAtom? (n : Int) : Option Atom :=
  if -0x8000000000000000 ≤ n ∧ n < 0x10000000000000000 then some (.int n) else none

def plainAtom? (s : String) : Option Atom :=
  if isNullText s then some .null
  else match bool? s with
    | some b => some (.bool b)
    | none => match int? s.toList with
      | some n => intAtom? n
      | none =>
        if isDigitString s.toList then some (.string s)
        else match float? s.toList with
          | some x => some (.float x)
          | none => some (.string s)

/-- The meaning of a scalar. A tag of the core schema settles how the text is read, whatever the
style; another tag that can be read makes it a string. -/
def atom? (s : Spelling) : Option Atom :=
  match s.tag with
  | .null => if nullWords.contains s.text then some .null else none
  | .bool => (bool? s.text).map .bool
  | .int => (int? s.text.toList).bind intAtom?
  | .float => (float? s.text.toList).map .float
  | .other => some (.string s.text)
  | _ => if s.style = .plain then plainAtom? s.text else some (.string s.text)

/-- The size that a scalar is: an integer of 64 bits without a minus. It is written plain, or as
literal lines with the tag of integers. -/
def size? (s : Spelling) : Option Nat :=
  if s.style = .plain || (s.style = .literal && s.tag = .int) then
    match s.text.toList with
    | '-' :: _ => none
    | cs => match int? cs with
      | some n => if n < 0x10000000000000000 then some n.toNat else none
      | none => none
  else none

/-- Whether a scalar leaves an optional field open. Nothing but null may carry the tag of nulls. -/
def leavesOpen? (s : Spelling) : Option Bool :=
  if s.style ≠ .plain then some false
  else match s.tag with
    | .absent => some (isNullText s.text)
    | .null => if nullWords.contains s.text then some true else none
    | _ => some false

/-- The meaning of a scalar that names a field or a kind. A zero with a minus is no number of
one. -/
def keyAtom? (s : Spelling) : Option Atom :=
  match s.atom? with
  | some (.int n) =>
    if n = 0 ∧ s.text.startsWith "-" then some (.float (Binary64.ofInt 0)) else some (.int n)
  | a => a

end Spelling

/-- What readers of records ask of a scalar. -/
class Legible (σ : Type) where
  /-- The settled meaning of a scalar, if it has one. -/
  atom? : σ → Option Atom
  /-- The settled meaning of a scalar that names a field or a kind. -/
  keyAtom? : σ → Option Atom
  /-- What a scalar gives to a field of text. -/
  text? : σ → Option String
  /-- What a scalar gives to a field for a size. -/
  size? : σ → Option Nat
  /-- Whether a scalar leaves an optional field open, if it may stand in one. -/
  leavesOpen? : σ → Option Bool
  /-- Whether a scalar stands for an empty sequence. -/
  isVoid : σ → Bool

instance : Legible Atom where
  atom? := some
  keyAtom? := some
  text?
    | .string s => some s
    | _ => none
  size?
    | .int n => if 0 ≤ n then some n.toNat else none
    | _ => none
  leavesOpen? a := some (a == .null)
  isVoid := (· == .null)

instance : Legible Spelling where
  atom? := Spelling.atom?
  keyAtom? := Spelling.keyAtom?
  text? s := some s.text
  size? := Spelling.size?
  leavesOpen? := Spelling.leavesOpen?
  isVoid s := s.text.isEmpty && s.style == .plain

end Gleaner.Yaml
