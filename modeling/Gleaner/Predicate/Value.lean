import Gleaner.Predicate.Check
/-!
# Checks of whole texts

The length of a text in code points, membership in a list of values, and verdicts from a table. A
table fails on a text that it has no entry for.
-/
namespace Gleaner

def sorted (texts : List String) : List String := texts.mergeSort fun s t => decide (s ≤ t)

/-- Texts in strictly increasing order: sorted, repetitions left out. -/
def sortedDistinct (texts : List String) : List String :=
  (sorted texts).foldr
    (fun s rest => match rest with
      | [] => [s]
      | t :: _ => if s == t then rest else s :: rest) []

/-- Bounds on the length of a text in code points, both inclusive. -/
structure CodepointLength where
  min : Option Nat
  max : Option Nat
  deriving DecidableEq, Repr

namespace CodepointLength

def accepts (bounds : CodepointLength) (text : String) : Bool :=
  let length := text.length
  bounds.min.all (· ≤ length) && bounds.max.all (length ≤ ·)

def shownBound : Option Nat → String
  | none => "None"
  | some n => s!"Some({n})"

def shown (bounds : CodepointLength) : String :=
  "CodepointLength \x7b min: " ++ shownBound bounds.min ++ ", max: " ++ shownBound bounds.max ++
    " \x7d"

def check (bounds : CodepointLength) : Check :=
  .ofText "codepoint_length" bounds.shown bounds.accepts

end CodepointLength

/-- An enumeration of values, kept in order and without repetitions. -/
structure ValidValues where
  values : List String
  deriving DecidableEq, Repr

namespace ValidValues

def ofList (values : List String) : ValidValues := ⟨sortedDistinct values⟩

def accepts (v : ValidValues) (text : String) : Bool := v.values.contains text

def shown (v : ValidValues) : String :=
  "ValidValues \x7b values: \x7b" ++ String.intercalate ", " (v.values.map Text.quoted) ++
    "\x7d \x7d"

def check (v : ValidValues) : Check := .ofText "valid_values" v.shown v.accepts

end ValidValues

/-- A table of verdicts: for each text at most one entry. -/
structure Lookup where
  entries : List (String × Bool)
  deriving DecidableEq, Repr

namespace Lookup

def empty : Lookup := ⟨[]⟩

def setEntry (text : String) (verdict : Bool) : List (String × Bool) → List (String × Bool)
  | [] => [(text, verdict)]
  | (t, v) :: rest =>
    if t == text then (t, verdict) :: rest else (t, v) :: setEntry text verdict rest

def set (table : Lookup) (text : String) (verdict : Bool) : Lookup :=
  ⟨setEntry text verdict table.entries⟩

def accept (table : Lookup) (text : String) : Lookup := table.set text true

def reject (table : Lookup) (text : String) : Lookup := table.set text false

/-- Accepts some texts one after another, then rejects others. -/
def ofLists (accepted rejected : List String) : Lookup :=
  rejected.foldl reject (accepted.foldl accept empty)

def get? (table : Lookup) (text : String) : Option Bool := table.entries.lookup text

def verdict (table : Lookup) (text : String) : Except Failure Bool :=
  match table.get? text with
  | some v => .ok v
  | none => .error ⟨"no table entry for \"" ++ text ++ "\""⟩

def shownEntry (entry : String × Bool) : String :=
  Text.quoted entry.1 ++ ": " ++ toString entry.2

def shown (table : Lookup) : String :=
  "Lookup \x7b table: \x7b" ++ String.intercalate ", " (table.entries.map shownEntry) ++ "\x7d \x7d"

def check (table : Lookup) : Check where
  name := "lookup"
  shown := table.shown
  test node := match node.text? with
    | some text => table.verdict text
    | none => .ok false

end Lookup

end Gleaner
