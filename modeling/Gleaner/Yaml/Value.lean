import Gleaner.Json.Value
/-!
# YAML values

A YAML tree has scalars, sequences and mappings, and any of them may carry tags. The trees are over
a type of scalars: in a `Yaml.Value` every scalar is settled as null, a boolean, a number or a
string. A mapping holds entries in order, and a key may be any tree. `Value.ofJson` is the plain
YAML value that a JSON value is, without tags.
-/
namespace Gleaner

/-- A YAML tree over scalars of a given type. -/
inductive Yaml (σ : Type) where
  | scalar (value : σ)
  | sequence (items : List (Yaml σ))
  | mapping (entries : List (Yaml σ × Yaml σ))
  | tagged (tag : String) (value : Yaml σ)

namespace Yaml

/-- A scalar whose meaning is settled. -/
inductive Atom where
  | null
  | bool (value : Bool)
  | int (value : Int)
  | float (value : Binary64)
  | string (value : String)
  deriving DecidableEq, Repr, Inhabited

abbrev Value := Yaml Atom

instance : Inhabited Value := ⟨.scalar .null⟩

def untag {σ : Type} : Yaml σ → Yaml σ
  | .tagged _ y => untag y
  | y => y

/-- The name of a tag: one mark in front of it is no part of the name. -/
def tagName (tag : String) : String :=
  match tag.toList with
  | '!' :: c :: rest => String.ofList (c :: rest)
  | _ => tag

def shownTag (tag : String) : String := "!" ++ tagName tag

namespace Atom

/-- The JSON value of a scalar. A number that is not finite has none and becomes null. -/
def toJson : Atom → Json
  | .null => .null
  | .bool b => .bool b
  | .int n => .int n
  | .float x => if x.isFinite then .float x else .null
  | .string s => .string s

/-- Equality of scalars. Numbers are compared as numbers, and a NaN equals a NaN. -/
def same : Atom → Atom → Bool
  | .float x, .float y => x.numEq y || (x.isNaN && y.isNaN)
  | a, b => decide (a = b)

end Atom

namespace Value

/-- The text of a string, seen through any number of tags. -/
def text? (y : Value) : Option String :=
  match y.untag with
  | .scalar (.string s) => some s
  | _ => none

def byte? (y : Value) : Option UInt8 :=
  match y.untag with
  | .scalar (.int n) => if 0 ≤ n ∧ n < 256 then some (UInt8.ofNat n.toNat) else none
  | _ => none

mutual
/-- Equality of values. The order of the entries of a mapping does not count, nor does the mark in
front of a tag. -/
def same : Value → Value → Bool
  | .scalar a, .scalar b => a.same b
  | .sequence xs, .sequence ys => sameItems xs ys
  | .mapping es, .mapping fs => es.length == fs.length && sameEntries es fs
  | .tagged t x, .tagged u y => tagName t == tagName u && same x y
  | _, _ => false
def sameItems : List Value → List Value → Bool
  | [], [] => true
  | x :: xs, y :: ys => same x y && sameItems xs ys
  | _, _ => false
def sameEntries : List (Value × Value) → List (Value × Value) → Bool
  | [], _ => true
  | (k, v) :: rest, fs => fs.any (fun f => same k f.1 && same v f.2) && sameEntries rest fs
end

/-- Sets an entry: a key already there keeps its place and takes the new value. -/
def setEntry (key value : Value) : List (Value × Value) → List (Value × Value)
  | [] => [(key, value)]
  | (k, v) :: rest =>
    if same k key then (k, value) :: rest else (k, v) :: setEntry key value rest

def ofEntries (entries : List (Value × Value)) : Value :=
  .mapping (entries.foldl (fun es e => setEntry e.1 e.2 es) [])

def distinctKeys : List (Value × Value) → Bool
  | [] => true
  | (k, _) :: rest => !rest.any (fun e => same k e.1) && distinctKeys rest

mutual
def ofJson : Json → Value
  | .null => .scalar .null
  | .bool b => .scalar (.bool b)
  | .int n => .scalar (.int n)
  | .float x => .scalar (.float x)
  | .string s => .scalar (.string s)
  | .array items => .sequence (ofItems items)
  | .object fields => .mapping (ofFields fields)
def ofItems : List Json → List Value
  | [] => []
  | j :: rest => ofJson j :: ofItems rest
def ofFields : List (String × Json) → List (Value × Value)
  | [] => []
  | (name, j) :: rest => (.scalar (.string name), ofJson j) :: ofFields rest
end

end Value

end Yaml

end Gleaner
