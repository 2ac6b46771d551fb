import Gleaner.Yaml.Spelling
/-!
# Reading data out of YAML trees

Readers for the basic types and for records, over trees of texts and of values alike. Tags on data
are looked through. Only whether a tree can be read counts here, not what is wrong with it. An
`Extent` says how far down a tree is read.
-/
namespace Gleaner.Yaml

/-- How much of a tree is read: all of it, a scalar, every item of a sequence to some extent, or the
fields of a record, each to an extent of its own. -/
inductive Extent where
  | whole
  | scalar
  | items (each : Extent)
  | record (fields : List (String × Extent))
  deriving Inhabited

variable {σ : Type} [Legible σ]

def toText? (y : Yaml σ) : Option String :=
  match y.untag with
  | .scalar s => Legible.text? s
  | _ => none

def toSize? (y : Yaml σ) : Option Nat :=
  match y.untag with
  | .scalar s => Legible.size? s
  | _ => none

def toItems? (y : Yaml σ) : Option (List (Yaml σ)) :=
  match y.untag with
  | .sequence items => some items
  | .scalar s => if Legible.isVoid s then some [] else none
  | _ => none

def toTexts? (y : Yaml σ) : Option (List String) :=
  match y.toItems? with
  | some items => items.mapM toText?
  | none => none

def toOption? {α : Type} (read : Yaml σ → Option α) (y : Yaml σ) : Option (Option α) :=
  match y with
  | .scalar s => match Legible.leavesOpen? s with
    | some true => some none
    | some false => (read y).map some
    | none => none
  | _ => (read y).map some

/-- The entries of a record under the names of its fields. No field may come twice; other names are
passed over if the record is open. -/
def recordEntries (fields : List String) (isOpen : Bool) (found : List (String × Yaml σ)) :
    List (Yaml σ × Yaml σ) → Option (List (String × Yaml σ))
  | [] => some found
  | (k, y) :: rest => match k.toText? with
    | none => none
    | some name =>
      if !fields.contains name then
        if isOpen then recordEntries fields isOpen found rest else none
      else if (found.lookup name).isSome then none
      else recordEntries fields isOpen ((name, y) :: found) rest

def record? (fields : List (String × Extent)) (isOpen : Bool) (y : Yaml σ) :
    Option (List (String × Yaml σ)) :=
  match y.untag with
  | .mapping entries => recordEntries (fields.map (·.1)) isOpen [] entries
  | _ => none

mutual
/-- The settled value of a tree without tags. Keys of a mapping may be repeated. -/
def content? : Yaml σ → Option Value
  | .scalar s => (Legible.atom? s).map .scalar
  | .sequence items => (contentItems? items).map .sequence
  | .mapping entries => (contentEntries? entries).map .mapping
  | .tagged _ _ => none
def contentItems? : List (Yaml σ) → Option (List Value)
  | [] => some []
  | y :: rest => do return (← content? y) :: (← contentItems? rest)
def contentEntries? : List (Yaml σ × Yaml σ) → Option (List (Value × Value))
  | [] => some []
  | (k, y) :: rest => do return (← content? k, ← content? y) :: (← contentEntries? rest)
end

mutual
/-- The settled value of a tree. No key of a mapping may be repeated. -/
def value? : Yaml σ → Option Value
  | .scalar s => (Legible.atom? s).map .scalar
  | .sequence items => (valueItems? items).map .sequence
  | .mapping entries => do
    let entries ← valueEntries? entries
    if Value.distinctKeys entries then return .mapping entries else none
  | .tagged tag y => (value? y).map (.tagged (tagName tag))
def valueItems? : List (Yaml σ) → Option (List Value)
  | [] => some []
  | y :: rest => do return (← value? y) :: (← valueItems? rest)
def valueEntries? : List (Yaml σ × Yaml σ) → Option (List (Value × Value))
  | [] => some []
  | (k, y) :: rest => do return (← value? k, ← value? y) :: (← valueEntries? rest)
end

mutual
/-- The JSON value of a tree without tags, repeated keys kept. Keys must be text. -/
def toJson? : Yaml σ → Option Json
  | .scalar s => (Legible.atom? s).map Atom.toJson
  | .sequence items => (jsonItems? items).map .array
  | .mapping entries => (jsonFields? entries).map .object
  | .tagged _ _ => none
def jsonItems? : List (Yaml σ) → Option (List Json)
  | [] => some []
  | y :: rest => do return (← toJson? y) :: (← jsonItems? rest)
def jsonFields? : List (Yaml σ × Yaml σ) → Option (List (String × Json))
  | [] => some []
  | (k, y) :: rest => do return (← k.toText?, ← toJson? y) :: (← jsonFields? rest)
end

end Gleaner.Yaml
