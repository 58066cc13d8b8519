/-! # Parse errors

An error is the first slot that the program does not fill: where the cursor stood, what it stood
at, and the sentence of the slot.
-/

namespace Scl

/-- A slot that was not filled. -/
structure ParseError where
  /-- The number of tokens before the slot. -/
  position : Nat
  /-- The token at the slot, or nothing when the program ended there. -/
  found : Option String
  /-- The sentence of the slot. -/
  expected : String
  deriving DecidableEq, Repr

namespace ParseError

/-- The short name of the class of an error. -/
def code (error : ParseError) : String :=
  match error.found with
  | some _ => "P0001"
  | none => "P0002"

def message (error : ParseError) : String :=
  match error.found with
  | some found => s!"Parse error at token '{found}': {error.expected}"
  | none => s!"Parse error at end of input: {error.expected}"

end ParseError

end Scl
