import Gleaner.Document.Node
/-!
# Pre-order listings

`Node.preorder` lists every node of a tree with its depth, a container before its children and
children in stored order. Nulls are leaves, whatever their declared kind.
-/
namespace Gleaner.Node

mutual
/-- The nodes of a tree in pre-order, the root at the given depth. -/
def preorderFrom (depth : Nat) : Node → List Place
  | .null k => [⟨depth, .null k⟩]
  | .scalar s => [⟨depth, .scalar s⟩]
  | .container form cs => ⟨depth, .container form cs⟩ :: preorderAll (depth + 1) cs
def preorderAll (depth : Nat) : List (Option String × Node) → List Place
  | [] => []
  | (_, n) :: rest => preorderFrom depth n ++ preorderAll depth rest
end

def preorder (n : Node) : List Place := preorderFrom 0 n

end Gleaner.Node
