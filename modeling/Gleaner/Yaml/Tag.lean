import Gleaner.Yaml.Spot
/-!
# Tags and names

A tag is written with a handle and a suffix. The handle stands for the start of a longer tag, the
suffix is in the characters of addresses, and bytes may be written as escapes. What counts of a tag
is whether it is one of the core schema or a local one, which starts with a mark; of any other, only
that it is there.
-/
namespace Gleaner.Yaml

/-- What a tag says about its node. A local tag that is no text says nothing that can be read. -/
inductive Tag where
  | absent
  | null | bool | int | float
  | named (name : String)
  | illegible
  | other
  deriving DecidableEq, Repr, Inhabited

namespace Tag

def coreHead : String := "tag:yaml.org,2002:"

def ofText (s : String) : Tag :=
  if s.startsWith "!" then .named s
  else if s = coreHead ++ "null" then .null
  else if s = coreHead ++ "bool" then .bool
  else if s = coreHead ++ "int" then .int
  else if s = coreHead ++ "float" then .float
  else .other

def ofBytes (bytes : List UInt8) : Tag :=
  match String.fromUTF8? ⟨bytes.toArray⟩ with
  | some s => ofText s
  | none => if bytes.head? == some '!'.toUInt8 then .illegible else .other

end Tag

def bytesOf (cs : List Char) : List UInt8 := (String.ofList cs).toUTF8.toList

/-- A tag as written. An empty handle marks a suffix that is the whole tag. -/
structure TagText where
  handle : String
  suffix : List UInt8
  deriving DecidableEq, Repr, Inhabited

abbrev Handles := List (String × List UInt8)

def Handles.standard : Handles :=
  [("!", bytesOf ['!']), ("!!", bytesOf Tag.coreHead.toList)]

def TagText.resolve? (t : TagText) (handles : Handles) : Option Tag :=
  if t.handle.isEmpty then some (.ofBytes t.suffix)
  else (handles.lookup t.handle).map fun start => .ofBytes (start ++ t.suffix)

/-- The characters of addresses, digits and letters apart. -/
def isAddressChar (c : Char) : Bool := isWordChar c || ";/?:@&=+$.!~*'()".toList.contains c

/-- How many bytes follow the given one in the encoding of a character. -/
def trailing? (byte : Nat) : Option Nat :=
  if byte < 0x80 then some 0
  else if byte < 0xC0 then none
  else if byte < 0xE0 then some 1
  else if byte < 0xF0 then some 2
  else if byte < 0xF8 then some 3
  else none

/-- Reads the bytes of an address. Escapes that make up one character stand together; `due` of them
are still to come. -/
def addressFrom (extra : List Char) (due : Nat) (read : List UInt8) (place : Position) :
    List Char → Option (List UInt8 × Spot)
  | '%' :: a :: b :: rest =>
    let place := (place.past '%' |>.past a).past b
    match Text.digits? 16 [a, b] with
    | none => none
    | some n =>
      if due = 0 then match trailing? n with
        | some due => addressFrom extra due (UInt8.ofNat n :: read) place rest
        | none => none
      else if n / 64 = 2 then addressFrom extra (due - 1) (UInt8.ofNat n :: read) place rest
      else none
  | c :: rest =>
    if due ≠ 0 || c = '%' then none
    else if isAddressChar c || extra.contains c then
      addressFrom extra 0 (c.toUInt8 :: read) (place.past c) rest
    else some (read.reverse, ⟨c :: rest, place⟩)
  | [] => if due = 0 then some (read.reverse, ⟨[], place⟩) else none

/-- Reads the bytes of an address. What follows a byte of zero does not count. -/
def readAddress? (extra : List Char) (s : Spot) : Option (List UInt8 × Spot) :=
  (addressFrom extra 0 [] s.position s.rest).map fun (bytes, s) => (bytes.takeWhile (· != 0), s)

def readWholeAddress? (extra : List Char) (s : Spot) : Option (List UInt8 × Spot) :=
  match readAddress? extra s with
  | some (bytes, after) => if after.position = s.position then none else some (bytes, after)
  | none => none

def readHandle? (s : Spot) : Option (String × Spot) :=
  if s.startsWith '!' then
    let (name, after) := s.tail.span isWordChar
    if after.startsWith '!' then some (String.ofList ('!' :: name ++ ['!']), after.tail) else none
  else none

/-- Reads a tag. A mark alone is a tag, too. -/
def readTagText? (s : Spot) : Option (TagText × Spot) :=
  if s.tail.startsWith '<' then
    match readWholeAddress? [',', '[', ']'] s.tail.tail with
    | some (suffix, after) => if after.startsWith '>' then some (⟨"", suffix⟩, after.tail) else none
    | none => none
  else match readHandle? s with
    | some (handle, after) =>
      (readWholeAddress? [] after).map fun (suffix, after) => (⟨handle, suffix⟩, after)
    | none => (readAddress? [] s.tail).map fun (suffix, after) =>
      (if suffix.isEmpty then ⟨"", bytesOf ['!']⟩ else ⟨"!", suffix⟩, after)

/-- Reads a tag that ends where a word does, or at a comma of a flow collection. -/
def readTag? (inFlow : Bool) (s : Spot) : Option (TagText × Spot) :=
  match readTagText? s with
  | some (tag, after) =>
    if endsWord after.rest || (inFlow && after.startsWith ',') then some (tag, after) else none
  | none => none

def readName? (s : Spot) : Option (String × Spot) :=
  let (name, after) := s.span isWordChar
  let ends := endsWord after.rest || after.rest.head?.any "?:,]\x7d%@`".toList.contains
  if name.isEmpty || !ends then none else some (String.ofList name, after)

inductive Directive where
  | version (major minor : Nat)
  | handle (name : String) (start : List UInt8)
  deriving DecidableEq, Repr

namespace Directive

/-- Reads the digits of a version, of which there are at most nine. -/
def readNumber? (s : Spot) : Option (Nat × Spot) :=
  let (digits, after) := s.span Char.isDigit
  if 9 < digits.length then none else (Text.digits? 10 digits).map (·, after)

def readVersion? (s : Spot) : Option (Directive × Spot) := do
  let (major, s) ← readNumber? (s.dropWhile isBlank)
  if !s.startsWith '.' then none
  let (minor, s) ← readNumber? s.tail
  return (.version major minor, s)

/-- Reads a handle and what it stands for. A handle may be one mark alone. -/
def readStart? (s : Spot) : Option (Directive × Spot) := do
  let s := s.dropWhile isBlank
  let (name, s) ← match readHandle? s with
    | some found => some found
    | none =>
      if s.startsWith '!' && !s.tail.rest.head?.any isWordChar then some ("!", s.tail) else none
  if !s.rest.head?.any isBlank then none
  let (start, s) ← readWholeAddress? [',', '[', ']'] (s.dropWhile isBlank)
  if endsWord s.rest then return (.handle name start, s) else none

def read? (s : Spot) : Option (Directive × Spot) := do
  let (name, s) := s.span isWordChar
  if !endsWord s.rest then none
  let (directive, s) ← match String.ofList name with
    | "YAML" => readVersion? s
    | "TAG" => readStart? s
    | _ => none
  return (directive, ← s.endLine?)

end Directive

end Gleaner.Yaml
