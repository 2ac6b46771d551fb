/-!
# Arguments of the command line

The first argument names a command. The arguments of `find` are flags and three others, in any
mixture: of several flags the last counts, and an unknown flag is an error before anything else.
-/
namespace Gleaner.CommandLine

/-- What `find` prints: the texts, their number, or every visit. -/
inductive FindMode where
  | values | count | trace
  deriving DecidableEq, Repr

structure FindArguments where
  schema : String
  typeName : String
  document : String
  mode : FindMode
  deriving DecidableEq, Repr

inductive UsageError where
  | unexpectedArgument (flag : String)
  | findArguments
  | checkArguments
  deriving DecidableEq, Repr

def UsageError.message : UsageError → String
  | .unexpectedArgument flag => "unexpected argument \"" ++ flag ++ "\""
  | .findArguments => "find requires <schema> <type> <document>"
  | .checkArguments => "check requires a schema file path"

namespace FindArguments

def isFlag (arg : String) : Bool := arg.startsWith "--"

def mode? (flag : String) : Option FindMode :=
  if flag = "--count" then some .count
  else if flag = "--trace" then some .trace
  else none

/-- Reads arguments one after another: the mode so far, and the arguments that are no flags so far,
the last one first. -/
def parseFrom (mode : FindMode) (others : List String) :
    List String → Except UsageError FindArguments
  | arg :: rest =>
    match mode? arg with
    | some mode => parseFrom mode others rest
    | none =>
      if isFlag arg then .error (.unexpectedArgument arg) else parseFrom mode (arg :: others) rest
  | [] => match others with
    | [document, typeName, schema] => .ok ⟨schema, typeName, document, mode⟩
    | _ => .error .findArguments

def parse (args : List String) : Except UsageError FindArguments := parseFrom .values [] args

end FindArguments

inductive Command where
  | find (args : FindArguments)
  | check (schema : String)
  | info
  | help
  | none
  | unknown (name : String)
  deriving DecidableEq, Repr

def Command.parse : List String → Except UsageError Command
  | [] => .ok .none
  | name :: args =>
    if name = "find" then (FindArguments.parse args).map .find
    else if name = "check" then match args with
      | schema :: _ => .ok (.check schema)
      | [] => .error .checkArguments
    else if name = "info" then .ok .info
    else if name = "help" ∨ name = "-h" ∨ name = "--help" then .ok .help
    else .ok (.unknown name)

def Command.paths : Command → List String
  | .find args => [args.schema, args.document]
  | .check schema => [schema]
  | _ => []

end Gleaner.CommandLine
