import Gleaner.Predicate.Constraint
import Gleaner.Schema.Error
/-!
# Bounded nesting

Evaluating a constraint recurses once per level, so a named type is held to a greatest depth.
-/
namespace Gleaner.NamedType

/-- Accepts a named type whose constraint nests no deeper than allowed. -/
def validate (t : NamedType) : Except SchemaError Unit :=
  if maxConstraintDepth < t.constraint.depth then
    .error (.depthExceeded t.constraint.depth maxConstraintDepth)
  else .ok ()

end Gleaner.NamedType
