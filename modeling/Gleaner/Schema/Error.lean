import Gleaner.Regex.Error
/-!
# Errors of schemas

What can be wrong with a schema or a type, each with its message. All of these are found while a
schema is loaded, before any document is read.
-/
namespace Gleaner

def maxConstraintDepth : Nat := 32

/-- The greatest number of constraints in one combination. -/
def maxCombined : Nat := 256

/-- The greatest length of a pattern in bytes. -/
def maxPatternLength : Nat := 8192

/-- The greatest length in bytes of a pattern that is a regular expression. -/
def maxRegexLength : Nat := 4096

inductive SchemaError where
  | depthExceeded (depth max : Nat)
  | invalidPattern (pattern : String) (reason : RegexError)
  | invalidConfig (reason : String)
  | unknownTypeUrl (url : String) (available : List String)
  | tooManyConstraints (count max : Nat)
  | patternTooLong (length max : Nat)
  | duplicateType (name : String)
  | unknownType (name : String) (available : List String)
  deriving DecidableEq, Repr

namespace SchemaError

def kind : SchemaError → String
  | .depthExceeded .. => "depth_exceeded"
  | .invalidPattern .. => "invalid_pattern"
  | .invalidConfig .. => "invalid_config"
  | .unknownTypeUrl .. => "unknown_type_url"
  | .tooManyConstraints .. => "too_many_constraints"
  | .patternTooLong .. => "pattern_too_long"
  | .duplicateType .. => "duplicate_type"
  | .unknownType .. => "unknown_type"

def choices (none some : String) (available : List String) : String :=
  if available.isEmpty then " (" ++ none ++ ")"
  else " (" ++ some ++ ": " ++ String.intercalate ", " available ++ ")"

def message : SchemaError → String
  | .depthExceeded depth max =>
    s!"constraint nesting depth is {depth}, but maximum allowed is {max}"
  | .invalidPattern pattern reason =>
    "invalid pattern \"" ++ pattern ++ "\": " ++ reason.message
  | .invalidConfig reason => "invalid config: " ++ reason
  | .unknownTypeUrl url available =>
    "unknown predicate type URL \"" ++ url ++ "\"" ++
      choices "no predicates are registered" "registered" available
  | .tooManyConstraints count max =>
    s!"compound constraint has {count} children, but maximum allowed is {max}"
  | .patternTooLong length max =>
    s!"pattern length is {length}, but maximum allowed is {max}"
  | .duplicateType name => "type \"" ++ name ++ "\" is defined more than once"
  | .unknownType name available =>
    "unknown type \"" ++ name ++ "\"" ++ choices "schema defines no types" "defined" available

end SchemaError

end Gleaner
