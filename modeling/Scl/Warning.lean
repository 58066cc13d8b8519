/-! # Warnings

A warning is a name that a `display` statement shows although it was never declared. It does not
stop the parse.
-/

namespace Scl

/-- An undeclared name and the position of its token. -/
structure Warning where
  position : Nat
  name : String
  deriving DecidableEq, Repr

def Warning.message (warning : Warning) : String :=
  s!"identifier '{warning.name}' not declared"

end Scl
