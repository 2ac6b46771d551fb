/-!
# Trees of literals

A tree holds some literals, given as bytes. A path of edges from the root spells a literal where it
reaches an end. Edges to smaller bytes come first, but no edge is moved across an end: the edges
before an end and those after it stay apart, so that earlier literals keep their precedence.
-/
namespace Gleaner.Regex

/-- A node: the groups of edges that an end has closed, and the group that is still open. An edge is
a byte and the index of the node that it leads to. -/
structure LiteralNode where
  closed : List (List (Nat × Nat)) := []
  edges : List (Nat × Nat) := []

namespace LiteralNode

def isLeaf (n : LiteralNode) : Bool := n.edges.isEmpty && n.closed.all (·.isEmpty)

/-- Marks that a literal ends here. A leaf needs one mark at most. -/
def markEnd (n : LiteralNode) : LiteralNode :=
  if n.isLeaf && !n.closed.isEmpty then n else { closed := n.edges :: n.closed, edges := [] }

def addEdge (n : LiteralNode) (byte target : Nat) : LiteralNode :=
  { n with edges :=
      n.edges.takeWhile (·.1 < byte) ++ (byte, target) :: n.edges.dropWhile (·.1 < byte) }

def groups (n : LiteralNode) : List (List (Nat × Nat)) :=
  (n.edges :: n.closed).filter (!·.isEmpty)

end LiteralNode

/-- Nodes that name each other by index; the first one is the root. -/
structure LiteralTree where
  nodes : Array LiteralNode

namespace LiteralTree

def empty : LiteralTree := ⟨#[{}]⟩

/-- Walks along the bytes of a literal from a node, adds the edges that are missing, and marks the
end. -/
def insertFrom (nodes : Array LiteralNode) (place : Nat) : List Nat → Array LiteralNode
  | [] => nodes.modify place (·.markEnd)
  | byte :: rest =>
    match (nodes[place]?.getD {}).edges.find? (·.1 == byte) with
    | some (_, target) => insertFrom nodes target rest
    | none =>
      let target := nodes.size
      insertFrom ((nodes.modify place (·.addEdge byte target)).push {}) target rest

def insert : LiteralTree → List Nat → LiteralTree
  | ⟨nodes⟩, bytes => ⟨insertFrom nodes 0 bytes⟩

def ofLiterals (literals : List (List Nat)) : LiteralTree := literals.foldl insert empty

end LiteralTree

end Gleaner.Regex
