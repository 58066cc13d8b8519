import Scl.Keyword
import Scl.Warning

/-! # Events of a parse

What a parse does, step by step: it meets the first token of a statement, passes a token, or finds
an undeclared name. The events of a run are its trace, from which the log is written.
-/

namespace Scl

/-- One step of a parse. -/
inductive Event where
  /-- A statement starts here; without a handler, its first word is no keyword. -/
  | statement (position : Nat) (value : String) (handler : Option Handler)
  /-- The cursor passed this token. -/
  | consumed (position : Nat) (value : String)
  /-- An undeclared name was found. -/
  | undeclared (warning : Warning)
  deriving DecidableEq, Repr

end Scl
