import Gleaner.CommandLine.Arguments
import Gleaner.CommandLine.Files
import Gleaner.Schema.Load
import Gleaner.Search.Trace
/-!
# The command line

The program finds texts of a document, checks a schema, or lists the registered types. A run is a
function of the arguments and the files: it gives lines to print and, where something fails, an
error. Lines found before a failure are printed.
-/
namespace Gleaner.CommandLine

inductive Failure where
  | usage (error : UsageError)
  | file (error : FileError)
  | schemaInvalid (error : SchemaError)
  | loadFailed (error : SchemaError)
  | unknownType (error : SchemaError)
  | search (error : FindError)

def Failure.message : Failure → String
  | .usage e => e.message
  | .file e => e.message
  | .schemaInvalid e => "schema invalid: " ++ e.message
  | .loadFailed e => "schema load failed: " ++ e.message
  | .unknownType e => e.message
  | .search e => e.message

/-- What a command prints, and why it failed if it did. -/
structure Report where
  lines : List String
  failure : Option Failure := none

/-- The types that schemas of the command line can use. -/
def registry : Registry := ({} : RegistryBuilder).registerTest.build

def describe : Outcome → String
  | .skippedNull => "skipped"
  | .descended children => s!"descended ({children})"
  | .matched => "matched"
  | .rejected => "rejected"
  | .notText => "not text"
  | .failed => "FAILED"
  | .tooDeep => "TOO DEEP"

/-- A number in at least six places. -/
def numbered (n : Nat) : String :=
  let digits := toString n
  String.ofList (List.replicate (6 - digits.length) ' ') ++ digits

def stepLine (s : Step) : String :=
  numbered s.ordinal ++ " " ++ String.ofList (List.replicate (2 * s.depth) ' ') ++ s.kind.name ++
    " " ++ describe s.outcome

def search (mode : FindMode) (f : Finder) (root : Node) : Report :=
  match mode with
  | .values => match f.find root with
    | .ok found => ⟨found.map Json.quote, none⟩
    | .error e => ⟨[], some (.search e)⟩
  | .count => match f.count root with
    | .ok n => ⟨[toString n], none⟩
    | .error e => ⟨[], some (.search e)⟩
  | .trace =>
    let t := f.trace root
    let steps := t.steps.map stepLine
    match t.result with
    | .ok found => ⟨steps ++ [toString found.length ++ " matched"], none⟩
    | .error e => ⟨steps, some (.search e)⟩

/-- Finds texts: the schema is loaded and the type looked up before the document is read. -/
def find (files : Files) (args : FindArguments) : Report :=
  match files.schema args.schema with
  | .error e => ⟨[], some (.file e)⟩
  | .ok config => match registry.loadSchema config with
    | .error e => ⟨[], some (.loadFailed e)⟩
    | .ok schema => match schema.require args.typeName with
      | .error e => ⟨[], some (.unknownType e)⟩
      | .ok finder => match files.document args.document with
        | .error e => ⟨[], some (.file e)⟩
        | .ok root => search args.mode finder root

def check (files : Files) (path : String) : Report :=
  match files.schema path with
  | .error e => ⟨[], some (.file e)⟩
  | .ok config => match registry.loadSchema config with
    | .error e => ⟨[], some (.schemaInvalid e)⟩
    | .ok schema =>
      ⟨s!"Schema valid (max_depth {schema.maxDepth})" :: schema.names.map ("  " ++ ·), none⟩

def info : Report := ⟨"Registered predicates:" :: registry.urls.map ("  " ++ ·), none⟩

def usage : List String :=
  ["Usage: typefind <command> [options]",
    "",
    "Commands:",
    "  find <schema> <type> <document> [--count | --trace]",
    "                        Print text values conforming to <type>",
    "  check <schema>        Validate schema",
    "  info                  Print registered type URLs",
    "  help                  Show this help"]

/-- What a run of the program leaves: its exit code and the lines of its two outputs. -/
structure Result where
  exit : Nat
  output : List String
  errors : List String

def Report.result (r : Report) : Result :=
  match r.failure with
  | none => ⟨0, r.lines, []⟩
  | some e => ⟨1, r.lines, ["error: " ++ e.message]⟩

def run (files : Files) (args : List String) : Result :=
  match Command.parse args with
  | .error e => (Report.mk [] (some (.usage e))).result
  | .ok (.find args) => (find files args).result
  | .ok (.check schema) => (check files schema).result
  | .ok .info => info.result
  | .ok .help => ⟨0, [], usage⟩
  | .ok .none => ⟨1, [], usage⟩
  | .ok (.unknown name) => ⟨1, [], ("error: unknown command \"" ++ name ++ "\"") :: usage⟩

def unlines (lines : List String) : String := String.join (lines.map (· ++ "\n"))

end Gleaner.CommandLine
