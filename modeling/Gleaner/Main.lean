import Gleaner.CommandLine.Run
/-!
# The program

Reads the files that the arguments name, runs the command line on them, and prints what it gives.
-/
namespace Gleaner.CommandLine

def reason : IO.Error → String
  | .noFileOrDirectory .. => "No such file or directory (os error 2)"
  | .permissionDenied .. => "Permission denied (os error 13)"
  | e => toString e

def load (paths : List String) : IO (List (String × Except String String)) :=
  paths.mapM fun (path : String) => do
    try return (path, .ok (← IO.FS.readFile path))
    catch e => return (path, .error (reason e))

end Gleaner.CommandLine

def main (args : List String) : IO UInt32 := do
  let paths := match Gleaner.CommandLine.Command.parse args with
    | .ok command => command.paths
    | .error _ => []
  let contents ← Gleaner.CommandLine.load paths
  let files : Gleaner.CommandLine.Files := fun path => (contents.lookup path).getD (.error "")
  let result := Gleaner.CommandLine.run files args
  (← IO.getStdout).putStr (Gleaner.CommandLine.unlines result.output)
  (← IO.getStderr).putStr (Gleaner.CommandLine.unlines result.errors)
  return UInt32.ofNat result.exit
