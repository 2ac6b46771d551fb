import Gleaner.Document.Node
import Gleaner.Text.Quoted
/-!
# Checks

A check tests a node: it conforms, it does not, or the test cannot be carried out. A check that
fails never counts as one that does not hold.
-/
namespace Gleaner

structure Failure where
  message : String
  deriving DecidableEq, Repr

/-- A named test of nodes, with the text that describes it. -/
structure Check where
  name : String := "anonymous"
  shown : String
  test : Node → Except Failure Bool

namespace Check

/-- A check of texts that never fails. Nodes that are not text do not conform. -/
def ofText (name shown : String) (accepts : String → Bool) : Check where
  name := name
  shown := shown
  test node := .ok (node.text?.any accepts)

def ofTextFunction (name : String) (accepts : String → Bool) : Check :=
  ofText name ("TextFn(" ++ Text.quoted name ++ ")") accepts

def ofFunction (name : String) (test : Node → Except Failure Bool) : Check where
  name := name
  shown := "FnPredicate(" ++ Text.quoted name ++ ")"
  test := test

/-- Every text conforms, and nothing else does. -/
def acceptAll : Check := ofText "text" "AcceptAll" fun _ => true

end Check

end Gleaner
