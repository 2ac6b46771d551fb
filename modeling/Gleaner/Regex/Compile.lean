import Gleaner.Regex.Error
import Gleaner.Regex.Program
import Gleaner.Regex.Reader
import Gleaner.Regex.Size
/-!
# Regular expressions

A regular expression is read once and then searches any number of texts. Searching is unanchored:
a text matches if some part of it does.
-/
namespace Gleaner

/-- A regular expression that is ready to search texts. -/
structure Regex where
  pattern : String
  program : Regex.Program

namespace Regex

def compile (pattern : String) (ignoreCase : Bool) : Except RegexError Regex :=
  match read? pattern ignoreCase with
  | none => .error .badSyntax
  | some p => if p.fits then .ok ⟨pattern, .ofPattern p⟩ else .error .tooLarge

/-- Whether some part of a text matches. -/
def isMatch (r : Regex) (text : String) : Bool := r.program.matchesSomewhere text

end Regex

end Gleaner
