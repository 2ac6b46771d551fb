import Gleaner.Yaml.Decode
/-!
# YAML trees with aliases

In a text a node may be named by an anchor, and an alias stands for the node of its name. Trees as
written keep their aliases, and a document keeps the nodes that they stand for beside its tree. An
alias may stand for a node that it is a part of. `Manuscript.read?` puts the nodes in place as far
down as a reader asks; depth is bounded, and so is the number of aliases followed.
-/
namespace Gleaner.Yaml

/-- A YAML tree with aliases, which are given by the number of their target. -/
inductive Written where
  | alias (target : Nat)
  | scalar (spelling : Spelling)
  | sequence (tag : Tag) (items : List Written)
  | mapping (tag : Tag) (entries : List (Written × Written))
  deriving Inhabited

def Written.empty : Written := .scalar ⟨"", .plain, .absent⟩

structure Manuscript where
  root : Written
  /-- The nodes that aliases stand for. -/
  targets : Array Written := #[]
  /-- How many parts the tree has, where a sequence or a mapping counts for its start and end. -/
  parts : Nat := 1
  deriving Inhabited

def Source.withTag : Tag → Source → Source
  | .named name, y => .tagged name y
  | _, y => y

def Spelling.toSource (s : Spelling) : Source :=
  match s.tag with
  | .named name => .tagged name (.scalar { s with tag := .absent })
  | _ => .scalar s

/-- The greatest number of sequences and mappings open at once. -/
def maxOpen : Nat := 128

namespace Manuscript

/-- How many aliases may be followed while a document is read. -/
def maxJumps (m : Manuscript) : Nat := 100 * m.parts

/-- The node that a tree is or stands for. The state is the number of aliases that may be followed
yet. -/
def follow (m : Manuscript) (y : Written) : StateT Nat Option Written := fun jumps =>
  match y, jumps with
  | .alias _, 0 => none
  | .alias n, jumps + 1 => (m.targets[n]?).map (·, jumps)
  | y, jumps => some (y, jumps)

/-- Reads a tree to an extent, with aliases replaced and at most the given depth. A field that is
not asked for is left empty. -/
def readTree (m : Manuscript) (depth : Nat) (extent : Extent) (y : Written) :
    StateT Nat Option Source := do
  match ← m.follow y, depth, extent with
  | .scalar s, _, _ => return s.toSource
  | .sequence tag items, depth + 1, .whole =>
    return .withTag tag (.sequence (← items.mapM fun y => m.readTree depth .whole y))
  | .sequence tag items, depth + 1, .items each =>
    return .withTag tag (.sequence (← items.mapM fun y => m.readTree depth each y))
  | .mapping tag entries, depth + 1, .whole =>
    return .withTag tag (.mapping (← entries.mapM fun (k, y) => do
      return (← m.readTree depth .whole k, ← m.readTree depth .whole y)))
  | .mapping tag entries, depth + 1, .record fields =>
    return .withTag tag (.mapping (← entries.mapM fun (k, y) => do
      let key ← m.readTree depth .scalar k
      match key.toText?.bind fun name => fields.lookup name with
      | some each => return (key, ← m.readTree depth each y)
      | none => return (key, Source.empty)))
  | _, _, _ => failure

/-- The tree of a document, read to an extent. -/
def read? (m : Manuscript) (extent : Extent) : Option Source :=
  (m.readTree maxOpen extent m.root).run' m.maxJumps

end Manuscript

end Gleaner.Yaml
