import Gleaner.Number.Binary64
/-!
# Document trees

A document is a tree of nulls, scalars and containers. Every node has a declared kind, a null too:
a null of kind `list` is still a leaf. Containers keep their children in order, each child with an
optional field name, and names may repeat. `Node.depth` measures nesting with a list of pending
nodes, so a tree of any depth can be measured.
-/
namespace Gleaner

inductive Kind where
  | null | bool | int | float | string | symbol | bytes | list | sexp | struct
  deriving DecidableEq, Repr, Inhabited

namespace Kind

def name : Kind → String
  | .null => "null"
  | .bool => "bool"
  | .int => "int"
  | .float => "float"
  | .string => "string"
  | .symbol => "symbol"
  | .bytes => "bytes"
  | .list => "list"
  | .sexp => "sexp"
  | .struct => "struct"

/-- Lists, s-expressions and structs are the kinds of containers. -/
def isContainer : Kind → Bool
  | .list | .sexp | .struct => true
  | _ => false

def ofName? : String → Option Kind
  | "null" => some .null
  | "bool" => some .bool
  | "int" => some .int
  | "float" => some .float
  | "string" => some .string
  | "symbol" => some .symbol
  | "bytes" => some .bytes
  | "list" => some .list
  | "sexp" => some .sexp
  | "struct" => some .struct
  | _ => none

end Kind

/-- A primitive value. Only `string` is text; a symbol looks like text and is another kind. -/
inductive Scalar where
  | bool (value : Bool)
  | int (value : Int64)
  | float (value : Binary64)
  | string (value : String)
  | symbol (value : String)
  | bytes (value : List UInt8)
  deriving DecidableEq, Repr

namespace Scalar

def kind : Scalar → Kind
  | .bool _ => .bool
  | .int _ => .int
  | .float _ => .float
  | .string _ => .string
  | .symbol _ => .symbol
  | .bytes _ => .bytes

def text? : Scalar → Option String
  | .string s => some s
  | _ => none

/-- Equality of scalars of one kind, floating-point numbers compared as numbers. -/
def numEq : Scalar → Scalar → Bool
  | .float x, .float y => x.numEq y
  | a, b => decide (a = b)

end Scalar

inductive Form where
  | list | sexp | struct
  deriving DecidableEq, Repr, Inhabited

def Form.kind : Form → Kind
  | .list => .list
  | .sexp => .sexp
  | .struct => .struct

/-- A node of a document tree. A child of a container is an optional field name and a node. -/
inductive Node where
  | null (kind : Kind)
  | scalar (value : Scalar)
  | container (form : Form) (children : List (Option String × Node))
  deriving Inhabited

namespace Node

abbrev text (s : String) : Node := .scalar (.string s)

def list (items : List Node) : Node := .container .list (items.map (none, ·))

def sexp (items : List Node) : Node := .container .sexp (items.map (none, ·))

def struct (fields : List (String × Node)) : Node :=
  .container .struct (fields.map fun (name, node) => (some name, node))

def kind : Node → Kind
  | .null k => k
  | .scalar s => s.kind
  | .container form _ => form.kind

def isNull : Node → Bool
  | .null _ => true
  | _ => false

def isScalar : Node → Bool
  | .scalar _ => true
  | _ => false

def isContainer : Node → Bool
  | .container .. => true
  | _ => false

/-- The text of a string scalar; no other node is text. -/
def text? : Node → Option String
  | .scalar s => s.text?
  | _ => none

def scalar? : Node → Option Scalar
  | .scalar s => some s
  | _ => none

def children : Node → List (Option String × Node)
  | .container _ cs => cs
  | _ => []

mutual
def size : Node → Nat
  | .null _ => 1
  | .scalar _ => 1
  | .container _ cs => 1 + sizeAll cs
def sizeAll : List (Option String × Node) → Nat
  | [] => 0
  | (_, n) :: rest => n.size + sizeAll rest
end

theorem size_pos (n : Node) : 0 < n.size := by
  cases n <;> simp only [size] <;> omega

mutual
/-- Structural nesting depth: a leaf and an empty container have none. -/
def height : Node → Nat
  | .null _ => 0
  | .scalar _ => 0
  | .container _ cs => heightAll cs
/-- One more than the greatest height in a list of children, and zero for no children. -/
def heightAll : List (Option String × Node) → Nat
  | [] => 0
  | (_, n) :: rest => max (n.height + 1) (heightAll rest)
end

end Node

/-- A node that waits to be visited, with its depth below the root. -/
structure Place where
  depth : Nat
  node : Node

namespace Place

def below (depth : Nat) (children : List (Option String × Node)) : List Place :=
  children.map fun c => ⟨depth + 1, c.2⟩

/-- The number of nodes that pending places still hold. -/
def weight : List Place → Nat
  | [] => 0
  | p :: rest => p.node.size + weight rest

@[simp] theorem weight_nil : weight [] = 0 := rfl

@[simp] theorem weight_cons (p : Place) (rest : List Place) :
    weight (p :: rest) = p.node.size + weight rest := rfl

@[simp] theorem weight_append (a b : List Place) : weight (a ++ b) = weight a + weight b := by
  induction a with
  | nil => simp
  | cons p rest ih => rw [List.cons_append, weight_cons, ih, weight_cons, Nat.add_assoc]

/-- Descending gives up one node: the children of a container hold the rest of its nodes. -/
theorem weight_below (depth : Nat) (cs : List (Option String × Node)) :
    weight (below depth cs) = Node.sizeAll cs := by
  induction cs with
  | nil => rfl
  | cons c rest ih =>
    obtain ⟨name, node⟩ := c
    simp only [below, List.map_cons, weight_cons, Node.sizeAll] at ih ⊢
    omega

end Place

namespace Node

/-- The greatest depth among pending places and everything below them. -/
def depthFrom (deepest : Nat) : List Place → Nat
  | [] => deepest
  | ⟨depth, .container _ cs⟩ :: rest =>
    depthFrom (max deepest depth) (Place.below depth cs ++ rest)
  | ⟨depth, _⟩ :: rest => depthFrom (max deepest depth) rest
termination_by pending => Place.weight pending
decreasing_by
  · simp [Place.weight_below, size]
  · simp [size_pos]

/-- The greatest nesting depth below a node. A leaf has depth 0. -/
def depth (n : Node) : Nat := depthFrom 0 [⟨0, n⟩]

mutual
/-- Equality of trees, floating-point numbers compared as numbers. -/
def numEq : Node → Node → Bool
  | .null a, .null b => a == b
  | .scalar a, .scalar b => a.numEq b
  | .container f as, .container g bs => f == g && numEqAll as bs
  | _, _ => false
def numEqAll : List (Option String × Node) → List (Option String × Node) → Bool
  | [], [] => true
  | (n, a) :: as, (m, b) :: bs => n == m && a.numEq b && numEqAll as bs
  | _, _ => false
end

end Node

end Gleaner
