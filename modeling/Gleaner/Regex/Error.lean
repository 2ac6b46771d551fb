/-!
# Errors of patterns

A pattern is either read and small enough to search with, or refused for one of two causes.
-/
namespace Gleaner

inductive RegexError where
  | badSyntax | tooLarge
  deriving DecidableEq, Repr

def RegexError.message : RegexError → String
  | .badSyntax => "regex parse error:"
  | .tooLarge => "Compiled regex exceeds size limit of 10485760 bytes."

end Gleaner
