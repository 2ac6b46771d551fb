import Gleaner.Yaml.Block
import Gleaner.Yaml.Scalar
import Gleaner.Yaml.Spelling
/-!
# YAML tokens

A text is cut into tokens, and the columns at which its lines start become tokens, too: a block
sequence or mapping starts where something stands further in than the block around it, and ends
where something stands further out.

A mapping is not seen before the colon after its first key. So the start of everything that could
be a key is kept, one for each flow collection that is open, and when the colon comes the mark of
the key is put in front of it. A key stands on one line and is not longer than `maxKey` bytes.
-/
namespace Gleaner.Yaml

inductive Token where
  | directive (said : Directive)
  | documentStart | documentEnd
  | blockSequence | blockMapping | blockEnd
  | flowSequence | flowSequenceEnd | flowMapping | flowMappingEnd
  | entry | comma | key | value
  | alias (name : String)
  | anchor (name : String)
  | tag (written : TagText)
  | scalar (text : String) (style : Style)
  deriving DecidableEq, Repr, Inhabited

/-- The greatest number of bytes from the start of a key to its colon. -/
def maxKey : Nat := 1024

/-- Something that could be a key. -/
structure KeyStart where
  /-- How many tokens are before it. -/
  place : Nat
  position : Position
  /-- Whether it must be a key, since it stands where the keys of a block mapping do. -/
  required : Bool

/-- Whether a key that starts here may still have its colon at a position. -/
def KeyStart.reaches (k : KeyStart) (p : Position) : Bool :=
  k.position.line == p.line && p.offset ≤ k.position.offset + maxKey

/-- A text that is being cut into tokens. -/
structure Lexing where
  spot : Spot
  tokens : Array Token := #[]
  /-- The columns of the open blocks, the innermost first. -/
  blocks : List Nat := []
  key : Option KeyStart := none
  /-- What could be keys around each of the open flow collections, the innermost first. -/
  outer : List (Option KeyStart) := []
  /-- Whether a key or an entry may start here. -/
  fresh : Bool := true

namespace Lexing

def inFlow (s : Lexing) : Bool := !s.outer.isEmpty

def column (s : Lexing) : Nat := s.spot.position.column

/-- The first column that belongs to the innermost block. -/
def least (s : Lexing) : Nat := s.blocks.head?.elim 0 (· + 1)

def push (t : Token) (spot : Spot) (s : Lexing) : Lexing :=
  { s with tokens := s.tokens.push t, spot := spot }

def pushMark (t : Token) (s : Lexing) : Lexing := s.push t s.spot.tail

/-- Passes over blanks, comments and line breaks. Outside flow collections a line break makes the
place fresh, and a tab may not stand where a key or an entry may. -/
def skipFrom (inFlow inComment fresh : Bool) (place : Position) : List Char → Bool × Spot
  | [] => (fresh, ⟨[], place⟩)
  | c :: rest =>
    if isBreak c then skipFrom inFlow false (fresh || !inFlow) (place.past c) rest
    else if inComment || c = ' ' || (c = '\t' && (inFlow || !fresh)) then
      skipFrom inFlow inComment fresh (place.past c) rest
    else if c = '#' then skipFrom inFlow true fresh (place.past c) rest
    else (fresh, ⟨c :: rest, place⟩)

def skip (s : Lexing) : Lexing :=
  let (fresh, spot) := skipFrom s.inFlow false s.fresh s.spot.position s.spot.rest
  { s with fresh := fresh, spot := spot }

/-- Gives up the key that could be, unless it must be one. -/
def dropKey (s : Lexing) : Option Lexing :=
  if s.key.any (·.required) then none else some { s with key := none }

def dropLateKey (s : Lexing) : Option Lexing :=
  if s.key.all (·.reaches s.spot.position) then some s else s.dropKey

/-- Keeps what starts here as something that could be a key, if keys may start here. -/
def keepKey (s : Lexing) : Option Lexing :=
  if s.fresh then
    let required := !s.inFlow && s.blocks.head? == some s.column
    let key : KeyStart := ⟨s.tokens.size, s.spot.position, required⟩
    s.dropKey.map ({ · with key := some key })
  else some s

/-- Starts a block at a column, unless one is open there. Its first token is put before the given
number of tokens. -/
def openBlock (t : Token) (column place : Nat) (s : Lexing) : Lexing :=
  if s.inFlow || column < s.least then s
  else { s with
    tokens := s.tokens.insertIdxIfInBounds place t
    blocks := column :: s.blocks }

def closeBlocks (tokens : Array Token) (column : Nat) : List Nat → Array Token × List Nat
  | [] => (tokens, [])
  | c :: rest =>
    if column < c then closeBlocks (tokens.push .blockEnd) column rest else (tokens, c :: rest)

def closeTo (column : Nat) (s : Lexing) : Lexing :=
  if s.inFlow then s
  else
    let (tokens, blocks) := closeBlocks s.tokens column s.blocks
    { s with tokens := tokens, blocks := blocks }

def closeAll (s : Lexing) : Lexing :=
  if s.inFlow then s
  else { s with tokens := s.blocks.foldl (fun ts _ => ts.push .blockEnd) s.tokens, blocks := [] }

def closeDocument (s : Lexing) : Option Lexing :=
  s.closeAll.dropKey.map ({ · with fresh := false })

def readDirective (s : Lexing) : Option Lexing := do
  let s ← s.closeDocument
  let (said, spot) ← Directive.read? s.spot.tail
  return s.push (.directive said) spot

def readMarker (s : Lexing) : Option Lexing := do
  let s ← s.closeDocument
  let t := if s.spot.startsWith '-' then Token.documentStart else .documentEnd
  return s.push t s.spot.tail.tail.tail

def openFlow (t : Token) (s : Lexing) : Option Lexing := do
  let s ← s.keepKey
  return { s with key := none, outer := s.key :: s.outer, fresh := true }.pushMark t

def closeFlow (t : Token) (s : Lexing) : Option Lexing := do
  let s ← s.dropKey
  let s := match s.outer with
    | [] => s
    | key :: rest => { s with key := key, outer := rest }
  return { s with fresh := false }.pushMark t

def readComma (s : Lexing) : Option Lexing := do
  let s ← s.dropKey
  return { s with fresh := true }.pushMark .comma

def readEntry (s : Lexing) : Option Lexing := do
  if !s.inFlow && !s.fresh then none
  let s ← (s.openBlock .blockSequence s.column s.tokens.size).dropKey
  return { s with fresh := true }.pushMark .entry

def readKey (s : Lexing) : Option Lexing := do
  if !s.inFlow && !s.fresh then none
  let s ← (s.openBlock .blockMapping s.column s.tokens.size).dropKey
  return { s with fresh := !s.inFlow }.pushMark .key

/-- Reads a colon, which makes a key of what could be one. -/
def readValue (s : Lexing) : Option Lexing :=
  match s.key with
  | some k =>
    let s := { s with
      tokens := s.tokens.insertIdxIfInBounds k.place .key, key := none, fresh := false }
    some ((s.openBlock .blockMapping k.position.column k.place).pushMark .value)
  | none =>
    if !s.inFlow && !s.fresh then none
    else
      let s := s.openBlock .blockMapping s.column s.tokens.size
      some ({ s with fresh := !s.inFlow }.pushMark .value)

def readWord (read : Spot → Option (Token × Spot)) (s : Lexing) : Option Lexing := do
  let s ← s.keepKey
  let (t, spot) ← read s.spot
  return { s with fresh := false }.push t spot

/-- Reads a plain scalar. After a line break at its end a key may start. -/
def readPlain (s : Lexing) : Option Lexing := do
  let s ← s.keepKey
  let draft : Draft := { position := s.spot.position }
  let (text, fresh, spot) ← plainFrom s.inFlow s.least draft s.spot.rest
  return { s with fresh := fresh }.push (.scalar text .plain) spot

def readQuoted (read : Draft → List Char → Option (String × Spot)) (s : Lexing) : Option Lexing :=
  s.readWord fun spot =>
    (read { position := spot.tail.position } spot.tail.rest).map fun (text, spot) =>
      (.scalar text .quoted, spot)

def readLines (folded : Bool) (s : Lexing) : Option Lexing := do
  let s ← s.dropKey
  let (text, spot) ← readBlock? folded s.blocks.head? s.spot.tail
  return { s with fresh := true }.push (.scalar text (if folded then .folded else .literal)) spot

def readFrom (c : Char) (s : Lexing) : Option Lexing :=
  let alone := s.inFlow || standsAlone c s.spot.rest
  match c with
  | '[' => s.openFlow .flowSequence
  | '{' => s.openFlow .flowMapping
  | ']' => s.closeFlow .flowSequenceEnd
  | '}' => s.closeFlow .flowMappingEnd
  | ',' => s.readComma
  | '*' => s.readWord fun spot => (readName? spot.tail).map fun (name, spot) => (.alias name, spot)
  | '&' => s.readWord fun spot => (readName? spot.tail).map fun (name, spot) => (.anchor name, spot)
  | '!' => s.readWord fun spot => (readTag? s.inFlow spot).map fun (tag, spot) => (.tag tag, spot)
  | '\'' => s.readQuoted singleFrom
  | '"' => s.readQuoted doubleFrom
  | _ =>
    if c = '-' && standsAlone '-' s.spot.rest then s.readEntry
    else if c = '?' && alone then s.readKey
    else if c = ':' && alone then s.readValue
    else if c = '|' && !s.inFlow then s.readLines false
    else if c = '>' && !s.inFlow then s.readLines true
    else if startsPlain s.inFlow s.spot.rest then s.readPlain
    else none

def readToken (c : Char) (s : Lexing) : Option Lexing :=
  if s.column = 0 && c = '%' then s.readDirective
  else if s.column = 0 && startsMarker s.spot.rest then s.readMarker
  else s.readFrom c

/-- Goes on to the next token, past what lies between, and ends the blocks that it is no part of. -/
def next? (s : Lexing) : Option Lexing :=
  let s := s.skip
  s.dropLateKey.map (·.closeTo s.column)

def run : Nat → Lexing → Option (Array Token)
  | 0, _ => none
  | fuel + 1, s => match s.next? with
    | none => none
    | some s => match s.spot.rest with
      | [] => s.closeAll.dropKey.map (·.tokens)
      | c :: _ => match s.readToken c with
        | some s => run fuel s
        | none => none

end Lexing

def Token.ofText? (text : String) : Option (List Token) :=
  (Spot.ofText? text).bind fun spot =>
    (Lexing.run (spot.rest.length + 1) { spot := spot }).map (·.toList)

end Gleaner.Yaml
