import Gleaner.Document.Node
/-!
# JSON values

A value keeps the fields of an object in order. A text may repeat a field name;
`Json.mergeFields` gives the value that such a text stands for, where a repeated name keeps its
first position and its last value. Every JSON value is a document: `Json.toNode`.
-/
namespace Gleaner

/-- A JSON value. A number is an integer or a floating-point number, never both. -/
inductive Json where
  | null
  | bool (value : Bool)
  | int (value : Int)
  | float (value : Binary64)
  | string (value : String)
  | array (items : List Json)
  | object (fields : List (String × Json))
  deriving Inhabited

namespace Json

/-- Sets a field: a name already there keeps its place and takes the new value. -/
def setField (name : String) (value : Json) : List (String × Json) → List (String × Json)
  | [] => [(name, value)]
  | (n, v) :: rest =>
    if n == name then (n, value) :: rest else (n, v) :: setField name value rest

mutual
/-- The value a text with repeated field names stands for. -/
def mergeFields : Json → Json
  | .array items => .array (mergeItems items)
  | .object fields => .object (mergeObject [] fields)
  | .null => .null
  | .bool b => .bool b
  | .int n => .int n
  | .float x => .float x
  | .string s => .string s
def mergeItems : List Json → List Json
  | [] => []
  | j :: rest => mergeFields j :: mergeItems rest
def mergeObject (merged : List (String × Json)) : List (String × Json) → List (String × Json)
  | [] => merged
  | (name, j) :: rest => mergeObject (setField name (mergeFields j) merged) rest
end

mutual
def depth : Json → Nat
  | .array items => depthItems items
  | .object fields => depthFields fields
  | .null => 0
  | .bool _ => 0
  | .int _ => 0
  | .float _ => 0
  | .string _ => 0
def depthItems : List Json → Nat
  | [] => 0
  | j :: rest => max (depth j + 1) (depthItems rest)
def depthFields : List (String × Json) → Nat
  | [] => 0
  | (_, j) :: rest => max (depth j + 1) (depthFields rest)
end

def fitsInt64 (n : Int) : Bool := -0x8000000000000000 ≤ n && n < 0x8000000000000000

/-- An integer that fits 64 bits with a sign is an `int`, any other number a `float`. -/
def intScalar (n : Int) : Scalar :=
  if fitsInt64 n then .int (Int64.ofInt n) else .float (Binary64.ofInt n)

mutual
/-- The document that a value is: arrays are lists and objects are structs. -/
def toNode : Json → Node
  | .null => .null .null
  | .bool b => .scalar (.bool b)
  | .int n => .scalar (intScalar n)
  | .float x => .scalar (.float x)
  | .string s => .text s
  | .array items => .container .list (toItems items)
  | .object fields => .container .struct (toFields fields)
def toItems : List Json → List (Option String × Node)
  | [] => []
  | j :: rest => (none, toNode j) :: toItems rest
def toFields : List (String × Json) → List (Option String × Node)
  | [] => []
  | (name, j) :: rest => (some name, toNode j) :: toFields rest
end

end Json

end Gleaner
