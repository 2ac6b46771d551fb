import Gleaner.Search.Finder
import Gleaner.Yaml.Decode
import Gleaner.Yaml.Document
/-!
# Test cases

A case is a document and what a finder should find in it: texts in order, or a kind of error.
-/
namespace Gleaner

inductive FindErrorKind where
  | predicateFailure | depthExceeded
  deriving DecidableEq, Repr

namespace FindErrorKind

def all : List FindErrorKind := [.predicateFailure, .depthExceeded]

def name : FindErrorKind → String
  | .predicateFailure => "predicate_failure"
  | .depthExceeded => "depth_exceeded"

def title : FindErrorKind → String
  | .predicateFailure => "PredicateFailure"
  | .depthExceeded => "DepthExceeded"

def ofName? (s : String) : Option FindErrorKind := all.find? (·.name == s)

/-- Reads a kind: its name, or a tag of that name on nothing. -/
def ofYaml? {σ : Type} [Yaml.Legible σ] : Yaml σ → Option FindErrorKind
  | .scalar s => (Yaml.Legible.text? s).bind ofName?
  | .tagged tag (.scalar s) =>
    if Yaml.Legible.leavesOpen? s == some true then ofName? (Yaml.tagName tag) else none
  | _ => none

end FindErrorKind

def FindError.errorKind : FindError → FindErrorKind
  | .predicateFailure .. => .predicateFailure
  | .depthExceeded .. => .depthExceeded

/-- A document and what should be found in it. The texts do not count where an error is expected. -/
structure TestCase where
  name : String
  document : Yaml.Value
  expect : List String := []
  expectError : Option FindErrorKind := none

structure CaseResult where
  name : String
  passed : Bool
  expected : String
  actual : Except FindError (List String)

namespace TestCase

def fields : List (String × Yaml.Extent) :=
  [("name", .scalar), ("document", .whole), ("expect", .items .scalar), ("expect_error", .scalar)]

def ofYaml? {σ : Type} [Yaml.Legible σ] (y : Yaml σ) : Option TestCase := do
  let found ← y.record? fields true
  let name ← (← found.lookup "name").toText?
  let document ← (← found.lookup "document").value?
  let expect ← match found.lookup "expect" with
    | some y => y.toTexts?
    | none => some []
  let expectError ← match found.lookup "expect_error" with
    | some y => y.toOption? FindErrorKind.ofYaml?
    | none => some none
  return ⟨name, document, expect, expectError⟩

def expected (c : TestCase) : String :=
  match c.expectError with
  | some kind => "Err(" ++ kind.title ++ ")"
  | none => "Ok(" ++ Text.quotedList c.expect ++ ")"

def passes (c : TestCase) (actual : Except FindError (List String)) : Bool :=
  match actual, c.expectError with
  | .error e, some kind => e.errorKind == kind
  | .ok found, none => found == c.expect
  | _, _ => false

/-- Runs a case. There is no outcome if the document is written wrongly. -/
def run? (c : TestCase) (f : Finder) : Option CaseResult :=
  match c.document.toNode with
  | .error _ => none
  | .ok root =>
    let actual := f.find root
    some ⟨c.name, c.passes actual, c.expected, actual⟩

end TestCase

end Gleaner
