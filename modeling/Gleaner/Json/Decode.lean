import Gleaner.Json.Value
import Gleaner.Number.Shortest
import Gleaner.Text.Quoted
/-!
# Reading data out of JSON values

What can be wrong with a value that should have a given type, and readers for the basic types. A
record is read entry by entry in the order of the text, so the first offending entry decides the
error; what is missing is found only after the last entry. A record may also be written as an array
of its fields.
-/
namespace Gleaner

inductive DecodeError where
  | missingField (name : String)
  | duplicateField (name : String)
  | unknownField (name : String) (known : List String)
  | unknownVariant (name : String) (known : List String)
  | invalidType (found expected : String)
  | invalidValue (found expected : String)
  | invalidLength (length : Nat) (expected : String)
  deriving DecidableEq, Repr

namespace DecodeError

def backquoted (name : String) : String := "`" ++ name ++ "`"

def choices : List String → String
  | [a] => backquoted a
  | [a, b] => backquoted a ++ " or " ++ backquoted b
  | names => "one of " ++ String.intercalate ", " (names.map backquoted)

def message : DecodeError → String
  | .missingField name => "missing field " ++ backquoted name
  | .duplicateField name => "duplicate field " ++ backquoted name
  | .unknownField name known =>
    "unknown field " ++ backquoted name ++ ", expected " ++ choices known
  | .unknownVariant name known =>
    "unknown variant " ++ backquoted name ++ ", expected " ++ choices known
  | .invalidType found expected => "invalid type: " ++ found ++ ", expected " ++ expected
  | .invalidValue found expected => "invalid value: " ++ found ++ ", expected " ++ expected
  | .invalidLength length expected => s!"invalid length {length}, expected " ++ expected

end DecodeError

namespace Json

/-- How a message names a value. -/
def described : Json → String
  | .null => "null"
  | .bool b => "boolean `" ++ toString b ++ "`"
  | .int n => s!"integer `{n}`"
  | .float x => "floating point `" ++ x.render ++ "`"
  | .string s => "string " ++ Text.quoted s
  | .array _ => "sequence"
  | .object _ => "map"

def mismatch {α : Type} (j : Json) (expected : String) : Except DecodeError α :=
  .error (.invalidType j.described expected)

def toText : Json → Except DecodeError String
  | .string s => .ok s
  | j => j.mismatch "a string"

def toBool : Json → Except DecodeError Bool
  | .bool b => .ok b
  | j => j.mismatch "a boolean"

/-- A size: an integer that is not negative. -/
def toSize : Json → Except DecodeError Nat
  | .int n =>
    if n < 0 then .error (.invalidValue (Json.int n).described "usize") else .ok n.toNat
  | j => j.mismatch "usize"

def toSize? : Json → Except DecodeError (Option Nat)
  | .null => .ok none
  | j => (toSize j).map some

def toTexts : Json → Except DecodeError (List String)
  | .array items => items.mapM toText
  | j => j.mismatch "a sequence"

/-- Whether too many items are counted as being in an array of a whole value or in a sequence. -/
inductive Surplus where
  | inArray | inSequence

def counted (n : Nat) (one many : String) : String := if n = 1 then s!"1 {one}" else s!"{n} {many}"

def Surplus.error (s : Surplus) (length fields : Nat) : DecodeError :=
  match s with
  | .inArray => .invalidLength length "fewer elements in array"
  | .inSequence =>
    .invalidLength length (counted fields "element in sequence" "elements in sequence")

end Json

/-- A type of records: its name and its fields in order. -/
structure RecordShape where
  name : String
  fields : List String

namespace RecordShape

def expected (shape : RecordShape) : String := "struct " ++ shape.name

def tooShort (shape : RecordShape) (index : Nat) : DecodeError :=
  .invalidLength index
    (shape.expected ++ " with " ++ Json.counted shape.fields.length "element" "elements")

/-- Reads the entries of an object in order. `set` reads one field into what has been read so far.
No field may come twice, and other names are refused. -/
def readEntries {σ : Type} (shape : RecordShape)
    (set : String → Json → σ → Except DecodeError σ) (seen : List String) (state : σ) :
    List (String × Json) → Except DecodeError σ
  | [] => .ok state
  | (name, j) :: rest =>
    if !shape.fields.contains name then .error (.unknownField name shape.fields)
    else if seen.contains name then .error (.duplicateField name)
    else match set name j state with
      | .ok state => shape.readEntries set (name :: seen) state rest
      | .error e => .error e

def readItems {σ : Type} (shape : RecordShape)
    (set : String → Json → σ → Except DecodeError σ) (state : σ) :
    List String → List Json → Except DecodeError σ
  | name :: names, j :: rest => match set name j state with
    | .ok state => shape.readItems set state names rest
    | .error e => .error e
  | _, _ => .ok state

/-- Reads a record. `finish` takes what has been read to the result; its argument is the error for a
field that is required and missing, given the index of the field. -/
def read {σ α : Type} (shape : RecordShape) (surplus : Json.Surplus)
    (set : String → Json → σ → Except DecodeError σ) (initial : σ)
    (finish : (Nat → DecodeError) → σ → Except DecodeError α) : Json → Except DecodeError α
  | .object entries => match shape.readEntries set [] initial entries with
    | .ok state => finish (fun index => .missingField (shape.fields.getD index "")) state
    | .error e => .error e
  | .array items => match shape.readItems set initial shape.fields items with
    | .error e => .error e
    | .ok state => match finish shape.tooShort state with
      | .error e => .error e
      | .ok a =>
        if shape.fields.length < items.length then
          .error (surplus.error items.length shape.fields.length)
        else .ok a
  | j => j.mismatch shape.expected

end RecordShape

end Gleaner
