import Gleaner.Predicate.Constraint
import Gleaner.Regex.Compile
import Gleaner.Schema.Error
import Gleaner.Text.Bytes
/-!
# Matching texts

A text is compared with a literal or searched with a regular expression. Literals may be compared
without regard to the case of ASCII letters. `MatchSpec` is a kind of matching and a pattern;
building its matcher checks the length of the pattern and the syntax of a regular expression.
-/
namespace Gleaner

/-- How a text is compared with a literal: as a whole, at its start, at its end, or anywhere. -/
inductive Comparison where
  | exact | leading | trailing | containing
  deriving DecidableEq, Repr

inductive MatchKind where
  | literal (comparison : Comparison)
  | regex
  deriving DecidableEq, Repr

namespace MatchKind

def all : List MatchKind :=
  [.literal .exact, .literal .leading, .literal .trailing, .literal .containing, .regex]

def name : MatchKind → String
  | .literal .exact => "exact"
  | .literal .leading => "prefix"
  | .literal .trailing => "suffix"
  | .literal .containing => "contains"
  | .regex => "regex"

def ofName? (s : String) : Option MatchKind := all.find? (·.name == s)

def title : MatchKind → String
  | .literal .exact => "Exact"
  | .literal .leading => "Prefix"
  | .literal .trailing => "Suffix"
  | .literal .containing => "Contains"
  | .regex => "Regex"

end MatchKind

inductive Matcher where
  | literal (comparison : Comparison) (value : String) (ignoreCase : Bool)
  | regex (regex : Regex)

namespace Matcher

open Text

/-- Whether a text is as long as a literal and has the same bytes. -/
def isExact (ignoreCase : Bool) (value text : String) : Bool :=
  alike (sameByte ignoreCase) (bytes value) (bytes text)

/-- Whether the slice of a text that is as long as a literal and at its start equals the literal.
When case is ignored, a slice that would end inside a character equals nothing. -/
def isLeading (ignoreCase : Bool) (value text : String) : Bool :=
  if ignoreCase then
    match takeBytes? (bytes value).length text.toList with
    | some front => alike (sameByte true) (bytes value) (utf8 front)
    | none => false
  else leads (· == ·) (bytes value) (bytes text)

/-- Whether the slice of a text that is as long as a literal and at its end equals the literal.
When case is ignored, a slice that would start inside a character equals nothing. -/
def isTrailing (ignoreCase : Bool) (value text : String) : Bool :=
  let size := (bytes text).length
  let length := (bytes value).length
  if ignoreCase then
    if size < length then false
    else match dropBytes? (size - length) text.toList with
      | some back => alike (sameByte true) (bytes value) (utf8 back)
      | none => false
  else leads (· == ·) (bytes value).reverse (bytes text).reverse

/-- Whether some run of bytes of a text equals a literal. -/
def isContained (ignoreCase : Bool) (value text : String) : Bool :=
  occurs (sameByte ignoreCase) (bytes value) (bytes text)

def accepts : Matcher → String → Bool
  | .literal .exact value ignoreCase, text => isExact ignoreCase value text
  | .literal .leading value ignoreCase, text => isLeading ignoreCase value text
  | .literal .trailing value ignoreCase, text => isTrailing ignoreCase value text
  | .literal .containing value ignoreCase, text => isContained ignoreCase value text
  | .regex r, text => r.isMatch text

def kind : Matcher → MatchKind
  | .literal comparison _ _ => .literal comparison
  | .regex _ => .regex

def shown : Matcher → String
  | .literal comparison value ignoreCase =>
    (MatchKind.literal comparison).title ++ " \x7b value: " ++ quoted value ++ ", ignore_case: " ++
      toString ignoreCase ++ " \x7d"
  | .regex r => "Regex(Regex(" ++ quoted r.pattern ++ "))"

def check (m : Matcher) : Check := .ofText m.kind.name m.shown m.accepts

def build (kind : MatchKind) (pattern : String) (ignoreCase : Bool) : Except RegexError Matcher :=
  match kind with
  | .literal comparison => .ok (.literal comparison pattern ignoreCase)
  | .regex => match Regex.compile pattern ignoreCase with
    | .ok r => .ok (.regex r)
    | .error e => .error e

/-- Patterns in configurations are held to a limit, which is lower for regular expressions. -/
def checkLength (pattern : String) (isRegex : Bool) : Except SchemaError Unit :=
  let max := if isRegex then maxRegexLength else maxPatternLength
  if max < (bytes pattern).length then .error (.patternTooLong (bytes pattern).length max)
  else .ok ()

end Matcher

structure MatchSpec where
  kind : MatchKind
  pattern : String
  deriving DecidableEq, Repr

namespace MatchSpec

/-- The matcher that a specification asks for. Case counts. -/
def matcher (spec : MatchSpec) : Except SchemaError Matcher := do
  Matcher.checkLength spec.pattern (spec.kind == .regex)
  match spec.kind with
  | .literal .exact => .ok (.literal .exact spec.pattern false)
  | .literal .leading => .ok (.literal .leading spec.pattern false)
  | .literal .trailing => .ok (.literal .trailing spec.pattern false)
  | .literal .containing => .ok (.literal .containing spec.pattern false)
  | .regex => match Regex.compile spec.pattern false with
    | .ok r => .ok (.regex r)
    | .error e => .error (.invalidPattern spec.pattern e)

/-- The description of a specification. The pattern stands between quotes as it is. -/
def shown (spec : MatchSpec) : String :=
  spec.kind.title ++ "(\"" ++ spec.pattern ++ "\")"

end MatchSpec

end Gleaner
