import Gleaner.Yaml.Value
/-!
# Documents in YAML

Plain YAML stands for a document in the way JSON does: sequences are lists and mappings are structs.
Four tags give what YAML has no form for: symbols, s-expressions, nulls of a declared kind, and
bytes. The first thing wrong in the order of the value decides the error.
-/
namespace Gleaner

inductive DocumentTag where
  | symbol | sexp | null | bytes
  deriving DecidableEq, Repr

namespace DocumentTag

def all : List DocumentTag := [.symbol, .sexp, .null, .bytes]

def name : DocumentTag → String
  | .symbol => "symbol"
  | .sexp => "sexp"
  | .null => "null"
  | .bytes => "bytes"

def expected : DocumentTag → String
  | .symbol => "a string"
  | .sexp => "a sequence"
  | .null => "a type name"
  | .bytes => "a sequence of bytes"

/-- The tag that is meant, whatever the number of marks in front of its name. -/
def ofTag? (tag : String) : Option DocumentTag :=
  let bare := (Yaml.shownTag tag).toList.dropWhile (· == '!')
  all.find? (·.name.toList == bare)

end DocumentTag

inductive DocumentError where
  | unknownTag (tag : String)
  | invalidTagged (tag : String) (meant : DocumentTag)
  | unknownNullType (name : String)
  | nonStringKey
  deriving DecidableEq, Repr

namespace DocumentError

def kind : DocumentError → String
  | .unknownTag _ => "unknown_tag"
  | .invalidTagged .. => "invalid_tagged"
  | .unknownNullType _ => "unknown_null_type"
  | .nonStringKey => "non_string_key"

def message : DocumentError → String
  | .unknownTag tag => "unknown document tag \"" ++ tag ++ "\""
  | .invalidTagged tag meant => "tag \"" ++ tag ++ "\" expects " ++ meant.expected
  | .unknownNullType name => "unknown null type \"" ++ name ++ "\""
  | .nonStringKey => "struct field names must be strings"

end DocumentError

namespace Yaml

def Atom.toNode : Atom → Node
  | .null => .null .null
  | .bool b => .scalar (.bool b)
  | .int n => .scalar (Json.intScalar n)
  | .float x => .scalar (.float x)
  | .string s => .text s

namespace Value

def taggedLeaf (tag : String) (y : Value) : DocumentTag → Except DocumentError Node
  | .symbol => match y.text? with
    | some s => .ok (.scalar (.symbol s))
    | none => .error (.invalidTagged (shownTag tag) .symbol)
  | .sexp => .error (.invalidTagged (shownTag tag) .sexp)
  | .null => match y.text? with
    | none => .error (.invalidTagged (shownTag tag) .null)
    | some name => match Kind.ofName? name with
      | some k => .ok (.null k)
      | none => .error (.unknownNullType name)
  | .bytes => match y with
    | .sequence items => match items.mapM byte? with
      | some bs => .ok (.scalar (.bytes bs))
      | none => .error (.invalidTagged (shownTag tag) .bytes)
    | _ => .error (.invalidTagged (shownTag tag) .bytes)

mutual
/-- The document that a value is. -/
def toNode : Value → Except DocumentError Node
  | .scalar a => .ok a.toNode
  | .sequence items => match toNodes items with
    | .ok nodes => .ok (.list nodes)
    | .error e => .error e
  | .mapping entries => match toFields entries with
    | .ok fields => .ok (.struct fields)
    | .error e => .error e
  | .tagged tag (.sequence items) => match DocumentTag.ofTag? tag with
    | none => .error (.unknownTag (shownTag tag))
    | some .sexp => match toNodes items with
      | .ok nodes => .ok (.sexp nodes)
      | .error e => .error e
    | some meant => taggedLeaf tag (.sequence items) meant
  | .tagged tag y => match DocumentTag.ofTag? tag with
    | none => .error (.unknownTag (shownTag tag))
    | some meant => taggedLeaf tag y meant
def toNodes : List Value → Except DocumentError (List Node)
  | [] => .ok []
  | y :: rest => match toNode y with
    | .error e => .error e
    | .ok node => match toNodes rest with
      | .error e => .error e
      | .ok nodes => .ok (node :: nodes)
/-- The fields that entries are. Every key must be a string. -/
def toFields : List (Value × Value) → Except DocumentError (List (String × Node))
  | [] => .ok []
  | (k, y) :: rest => match k.text? with
    | none => .error .nonStringKey
    | some name => match toNode y with
      | .error e => .error e
      | .ok node => match toFields rest with
        | .error e => .error e
        | .ok fields => .ok ((name, node) :: fields)
end

end Value

end Yaml

end Gleaner
