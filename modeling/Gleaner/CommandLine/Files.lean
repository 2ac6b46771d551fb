import Gleaner.Json.Text
import Gleaner.Schema.Yaml
import Gleaner.Yaml.Document
import Gleaner.Yaml.Text
/-!
# Files of the command line

Schemas and documents are read from files. A file whose name ends in `.json`, in letters of either
case, holds JSON, and any other holds YAML.
-/
namespace Gleaner.CommandLine

/-- The contents of a file by its path, or why it cannot be read. -/
abbrev Files := String → Except String String

inductive FileError where
  | unreadable (path reason : String)
  | notJson
  | notYaml
  | notDocument (path : String) (error : DocumentError)
  deriving DecidableEq, Repr

def FileError.message : FileError → String
  | .unreadable path reason => "failed to read \"" ++ path ++ "\": " ++ reason
  | .notJson => "JSON parse error: the text cannot be read"
  | .notYaml => "YAML parse error: the text cannot be read"
  | .notDocument path error => "\"" ++ path ++ "\": " ++ error.message

def fileName (path : List Char) : List Char :=
  ((path.reverse.dropWhile (· == '/')).takeWhile (· != '/')).reverse

/-- What follows the last point in a file name, unless nothing comes before that point. -/
def extension? (name : List Char) : Option (List Char) :=
  let back := name.reverse.takeWhile (· != '.')
  if name == ['.', '.'] || name.length ≤ back.length + 1 then none else some back.reverse

def isJson (path : String) : Bool :=
  (extension? (fileName path.toList)).any (·.map Char.toLower == ['j', 's', 'o', 'n'])

def Files.read (files : Files) (path : String) : Except FileError String :=
  match files path with
  | .ok text => .ok text
  | .error reason => .error (.unreadable path reason)

def readSchema (json : Bool) (text : String) : Except FileError SchemaConfig :=
  if json then match (Json.parse? text).bind fun j => (SchemaConfig.ofJson j).toOption with
    | some config => .ok config
    | none => .error .notJson
  else match (Yaml.Source.readAs? (.record SchemaConfig.fields) text).bind SchemaConfig.ofYaml? with
    | some config => .ok config
    | none => .error .notYaml

def readDocument (path : String) (text : String) : Except FileError Node :=
  if isJson path then match Json.read? text with
    | some j => .ok j.toNode
    | none => .error .notJson
  else match (Yaml.Source.read? text).bind Yaml.value? with
    | none => .error .notYaml
    | some y => match y.toNode with
      | .ok node => .ok node
      | .error e => .error (.notDocument path e)

def Files.schema (files : Files) (path : String) : Except FileError SchemaConfig :=
  (files.read path).bind (readSchema (isJson path))

def Files.document (files : Files) (path : String) : Except FileError Node :=
  (files.read path).bind (readDocument path)

end Gleaner.CommandLine
