import Gleaner.Yaml.Token
import Gleaner.Yaml.Written
/-!
# YAML texts

A text holds documents, each of them one node. The tokens of a node are read by a machine with a
stack of the collections that are open. Every collection on the stack has a slot, where the next of
its nodes goes; filling a slot gives the slot after it. Handles hold for one document, and so do the
names of anchors.
-/
namespace Gleaner.Yaml

/-- A place for a node in an open collection, with what is read of that, the last part first. -/
inductive Slot where
  | blockItem (read : List Written)
  | indentlessItem (read : List Written)
  | blockKey (read : List (Written × Written))
  | blockValue (read : List (Written × Written)) (key : Written)
  | flowItem (read : List Written)
  | pairKey (read : List Written)
  | pairValue (read : List Written) (key : Written)
  | flowKey (read : List (Written × Written))
  | flowLoneKey (read : List (Written × Written))
  | flowValue (read : List (Written × Written)) (key : Written)

/-- What tokens say about a slot: a node is due in it, nothing is written in it, or the collection
ends instead. -/
inductive Turn where
  | due (slot : Slot)
  | empty (slot : Slot)
  | ended (node : Tag → Written)

/-- Tokens after which a node is due, or nothing is written if one of `ends` comes next. -/
def dueUnless (slot : Slot) (ends tokens : List Token) : Turn × List Token :=
  if tokens.head?.any ends.contains then (.empty slot, tokens) else (.due slot, tokens)

namespace Slot

def fill (y : Written) : Slot → Slot
  | blockItem read => blockItem (y :: read)
  | indentlessItem read => indentlessItem (y :: read)
  | blockKey read => blockValue read y
  | blockValue read key => blockKey ((key, y) :: read)
  | flowItem read => flowItem (y :: read)
  | pairKey read => pairValue read y
  | pairValue read key => flowItem (.mapping .absent [(key, y)] :: read)
  | flowKey read => flowValue read y
  | flowLoneKey read => flowKey ((y, .empty) :: read)
  | flowValue read key => flowKey ((key, y) :: read)

/-- Whether the node in a slot may be a block, and whether it may be a block sequence that is not
indented. -/
def allows : Slot → Bool × Bool
  | blockItem _ => (true, false)
  | indentlessItem _ => (true, false)
  | blockKey _ => (true, true)
  | blockValue _ _ => (true, true)
  | _ => (false, false)

/-- The tokens after a comma between the parts of a flow collection. There is none before the first
part. -/
def afterComma? (isFirst : Bool) : List Token → Option (List Token)
  | .comma :: rest => if isFirst then some (.comma :: rest) else some rest
  | tokens => if isFirst then some tokens else none

/-- Reads the key of a mapping of one entry in a flow sequence. A key that is left out takes the
token after its mark with it. -/
def readPairKey (read : List Written) : List Token → Turn × List Token
  | .value :: rest => (.empty (pairKey read), rest)
  | .comma :: rest => (.empty (pairKey read), rest)
  | .flowSequenceEnd :: rest => (.empty (pairKey read), rest)
  | tokens => (.due (pairKey read), tokens)

def next? : Slot → List Token → Option (Turn × List Token)
  | blockItem read, .entry :: rest => some (dueUnless (blockItem read) [.entry, .blockEnd] rest)
  | blockItem read, .blockEnd :: rest => some (.ended (.sequence · read.reverse), rest)
  | indentlessItem read, .entry :: rest =>
    some (dueUnless (indentlessItem read) [.entry, .key, .value, .blockEnd] rest)
  | indentlessItem read, tokens => some (.ended (.sequence · read.reverse), tokens)
  | blockKey read, .key :: rest => some (dueUnless (blockKey read) [.key, .value, .blockEnd] rest)
  | blockKey read, .blockEnd :: rest => some (.ended (.mapping · read.reverse), rest)
  | blockValue read key, .value :: rest =>
    some (dueUnless (blockValue read key) [.key, .value, .blockEnd] rest)
  | blockValue read key, tokens => some (.empty (blockValue read key), tokens)
  | flowItem read, .flowSequenceEnd :: rest => some (.ended (.sequence · read.reverse), rest)
  | flowItem read, tokens => match afterComma? read.isEmpty tokens with
    | some (.key :: rest) => some (readPairKey read rest)
    | some (.flowSequenceEnd :: rest) => some (.ended (.sequence · read.reverse), rest)
    | some rest => some (.due (flowItem read), rest)
    | none => none
  | pairValue read key, .value :: rest =>
    some (dueUnless (pairValue read key) [.comma, .flowSequenceEnd] rest)
  | pairValue read key, tokens => some (.empty (pairValue read key), tokens)
  | flowKey read, .flowMappingEnd :: rest => some (.ended (.mapping · read.reverse), rest)
  | flowKey read, tokens => match afterComma? read.isEmpty tokens with
    | some (.key :: rest) =>
      some (dueUnless (flowKey read) [.value, .comma, .flowMappingEnd] rest)
    | some (.flowMappingEnd :: rest) => some (.ended (.mapping · read.reverse), rest)
    | some rest => some (.due (flowLoneKey read), rest)
    | none => none
  | flowValue read key, .value :: rest =>
    some (dueUnless (flowValue read key) [.comma, .flowMappingEnd] rest)
  | flowValue read key, tokens => some (.empty (flowValue read key), tokens)
  | _, _ => none

def parts : Slot → Nat
  | pairKey _ => 2
  | _ => 0

end Slot

structure Head where
  tag : Tag := .absent
  /-- The number of the target that the node is, and how many parts are before it. -/
  anchor : Option (Nat × Nat) := none

structure Frame where
  head : Head
  slot : Slot

/-- A document that is being read. -/
structure Reading where
  tokens : List Token
  handles : Handles
  frames : List Frame := []
  /-- Whether a node is due, in the innermost slot or as the root. -/
  due : Bool := true
  root : Option Written := none
  /-- The targets that names stand for. -/
  names : List (String × Nat) := []
  /-- The nodes that are targets, each with the number of parts before it. -/
  targets : Array (Nat × Written) := #[]
  parts : Nat := 0

namespace Reading

/-- Gives a name to the node that starts here. The number of its target is the number of names, so
that a name used again may take the target of another one. -/
def addAnchor (name : String) (r : Reading) : (Nat × Nat) × Reading :=
  let n := r.names.length
  let targets := if n < r.targets.size then r.targets.setIfInBounds n (r.parts, .empty)
    else r.targets.push (r.parts, .empty)
  let names := (name, n) :: r.names.filter (·.1 != name)
  ((n, r.parts), { r with names := names, targets := targets })

/-- Makes a node the target of its anchor, unless a later one has become that. -/
def setTarget (head : Head) (y : Written) (r : Reading) : Reading :=
  match head.anchor with
  | some (n, place) =>
    if r.targets[n]?.any (·.1 == place) then
      { r with targets := r.targets.setIfInBounds n (place, y) }
    else r
  | none => r

def put (y : Written) (r : Reading) : Reading :=
  match r.frames with
  | [] => { r with root := some y }
  | f :: rest => { r with frames := { f with slot := f.slot.fill y } :: rest, due := false }

def putScalar (head : Head) (text : String) (style : Style) (r : Reading) : Reading :=
  let y := Written.scalar ⟨text, style, head.tag⟩
  { r.setTarget head y with parts := r.parts + 1 }.put y

def openSlot (head : Head) (slot : Slot) (tokens : List Token) (r : Reading) : Reading :=
  { r with
    tokens := tokens, frames := ⟨head, slot⟩ :: r.frames, due := false, parts := r.parts + 1 }

/-- Reads the anchor and the tag of a node, in either order. -/
def readHead : List Token → Option String × Option TagText × List Token
  | .anchor name :: .tag tag :: rest => (some name, some tag, rest)
  | .tag tag :: .anchor name :: rest => (some name, some tag, rest)
  | .anchor name :: rest => (some name, none, rest)
  | .tag tag :: rest => (none, some tag, rest)
  | tokens => (none, none, tokens)

/-- Reads the body of a node after its head. A node with a head may be empty. -/
def readBody? (head : Head) (bare : Bool) (r : Reading) : Option Reading :=
  let (block, indentless) := match r.frames with
    | [] => (true, false)
    | f :: _ => f.slot.allows
  match r.tokens, block, indentless with
  | .entry :: _, _, true => some (r.openSlot head (.indentlessItem []) r.tokens)
  | .scalar text style :: rest, _, _ => some ({ r with tokens := rest }.putScalar head text style)
  | .flowSequence :: rest, _, _ => some (r.openSlot head (.flowItem []) rest)
  | .flowMapping :: rest, _, _ => some (r.openSlot head (.flowKey []) rest)
  | .blockSequence :: rest, true, _ => some (r.openSlot head (.blockItem []) rest)
  | .blockMapping :: rest, true, _ => some (r.openSlot head (.blockKey []) rest)
  | _, _, _ => if bare then none else some (r.putScalar head "" .plain)

def startNode? (r : Reading) : Option Reading :=
  match r.tokens with
  | .alias name :: rest =>
    (r.names.lookup name).map fun n =>
      { r with tokens := rest, parts := r.parts + 1 }.put (.alias n)
  | _ =>
    let (name, tag, tokens) := readHead r.tokens
    let r := { r with tokens := tokens }
    match tag.elim (some .absent) (·.resolve? r.handles) with
    | none => none
    | some meaning => match name with
      | some name =>
        let (anchor, r) := r.addAnchor name
        r.readBody? ⟨meaning, some anchor⟩ false
      | none => r.readBody? ⟨meaning, none⟩ tag.isNone

def goOn? (r : Reading) : Option Reading :=
  match r.frames with
  | [] => none
  | f :: frames => match f.slot.next? r.tokens with
    | none => none
    | some (.due slot, tokens) =>
      some { r with
        tokens := tokens, frames := { f with slot := slot } :: frames, due := true
        parts := r.parts + slot.parts }
    | some (.empty slot, tokens) =>
      let frames := { f with slot := slot } :: frames
      some ({ r with tokens := tokens, frames := frames, parts := r.parts + slot.parts }.putScalar
        {} "" .plain)
    | some (.ended node, tokens) =>
      let y := node f.head.tag
      some ({ r.setTarget f.head y with
        tokens := tokens, frames := frames, parts := r.parts + 1 }.put y)

/-- Reads a node to its end. The tokens bound the number of steps. -/
def run : Nat → Reading → Option (Manuscript × List Token)
  | 0, _ => none
  | fuel + 1, r => match r.root with
    | some y => some (⟨y, r.targets.map (·.2), r.parts⟩, r.tokens)
    | none => match if r.due then r.startNode? else r.goOn? with
      | some r => run fuel r
      | none => none

end Reading

namespace Manuscript

/-- Reads the directives of a document. Only one may give a version, and only one each handle. -/
def readDirectives (hasVersion : Bool) (handles : Handles) :
    List Token → Option (Handles × List Token)
  | .directive (.version major minor) :: rest =>
    if hasVersion || major ≠ 1 || (minor ≠ 1 && minor ≠ 2) then none
    else readDirectives true handles rest
  | .directive (.handle name start) :: rest =>
    if (handles.lookup name).isSome then none
    else readDirectives hasVersion ((name, start) :: handles) rest
  | tokens => some (handles ++ .standard, tokens)

def isEmptyHere : List Token → Bool
  | [] => true
  | .directive _ :: _ => true
  | .documentStart :: _ => true
  | .documentEnd :: _ => true
  | _ => false

def readMarked? (fuel : Nat) (tokens : List Token) : Option (Manuscript × List Token) :=
  match readDirectives false [] tokens with
  | some (handles, .documentStart :: rest) =>
    if isEmptyHere rest then some ({ root := .empty }, rest)
    else Reading.run fuel { tokens := rest, handles := handles }
  | _ => none

def isMarked : List Token → Bool
  | .directive _ :: _ => true
  | .documentStart :: _ => true
  | _ => false

/-- Reads documents one after another. Only the first may start without a mark. -/
def readAll (fuel : Nat) : Nat → List Manuscript → List Token → Option (List Manuscript)
  | 0, _, _ => none
  | count + 1, read, tokens =>
    if tokens.isEmpty then some read.reverse
    else
      let found := if isMarked tokens || !read.isEmpty then readMarked? fuel tokens
        else Reading.run fuel { tokens := tokens, handles := .standard }
      match found with
      | some (m, rest) => readAll fuel count (m :: read) (rest.dropWhile (· == .documentEnd))
      | none => none

/-- The documents of a text. A text with nothing in it has one, and nothing is written there. -/
def ofText? (text : String) : Option (List Manuscript) :=
  match Token.ofText? text with
  | none => none
  | some [] => some [{ root := .empty }]
  | some tokens => readAll (4 * tokens.length + 8) (tokens.length + 1) [] tokens

end Manuscript

def Source.documents? (extent : Extent) (text : String) : Option (List Source) :=
  (Manuscript.ofText? text).bind (·.mapM (·.read? extent))

/-- The only document of a text, read to an extent. -/
def Source.readAs? (extent : Extent) (text : String) : Option Source :=
  match Source.documents? extent text with
  | some [y] => some y
  | _ => none

def Source.read? (text : String) : Option Source := Source.readAs? .whole text

end Gleaner.Yaml
