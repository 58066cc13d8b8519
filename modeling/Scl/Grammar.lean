import Scl.Text.AsciiCase
import Scl.Token
import Scl.Tree

/-! # The statements of SCL

A statement is a keyword and the slots after it. A slot takes exactly one token; it either looks at
the kind of the token, or at its word, or takes any. The rules are data, so one interpreter reads
them all and what a rule asks for can be read off it.
-/

namespace Scl

/-- What a slot accepts. -/
inductive Slot.Shape where
  /-- A token of this kind. -/
  | kind (kind : Token.Kind)
  /-- An identifier, which the program should have declared. -/
  | declared
  /-- This word, whatever its case and kind. -/
  | word (word : String)
  /-- Any token. -/
  | any
  deriving DecidableEq, Repr

namespace Slot.Shape

def admits : Shape → Token → Bool
  | .kind wanted, token => token.kind == wanted
  | .declared, token => token.kind == .identifier
  | .word spelling, token => Text.sameWord token.value spelling
  | .any, _ => true

/-- The leaf that stands for the token taken: a fixed word in its own spelling, an operand in the
spelling of the program. -/
def label : Shape → Token → String
  | .word spelling, _ => spelling
  | _, token => token.value

end Slot.Shape

/-- A place in a statement, with the sentence that says what is missing there. -/
structure Slot where
  shape : Slot.Shape
  expected : String
  deriving DecidableEq, Repr

/-- The sentence for a missing word. -/
def Slot.expectedWord (word : String) : String :=
  s!"Expected '{word}'."

def Slot.ofWord (word : String) : Slot :=
  ⟨.word word, expectedWord word⟩

/-- The statements that have a grammar. -/
inductive Rule where
  /-- `define IDENTIFIER of type KEYWORD` -/
  | define
  /-- `display IDENTIFIER` -/
  | display
  /-- `set IDENTIFIER = TOKEN` -/
  | set
  /-- `import IDENTIFIER` -/
  | importModule
  /-- `exit` -/
  | exit
  deriving DecidableEq, Repr

namespace Rule

def all : List Rule :=
  [.define, .display, .set, .importModule, .exit]

/-- The word that a statement of the rule starts with. -/
def keyword : Rule → String
  | .define => "define"
  | .display => "display"
  | .set => "set"
  | .importModule => "import"
  | .exit => "exit"

def label : Rule → String
  | .define => "DefineStatement"
  | .display => "DisplayStatement"
  | .set => "SetStatement"
  | .importModule => "ImportStatement"
  | .exit => "ExitStatement"

def slots : Rule → List Slot
  | .define =>
    [⟨.kind .identifier, "Expected identifier after 'define'."⟩, .ofWord "of", .ofWord "type",
      ⟨.kind .keyword, "Expected type keyword."⟩]
  | .display => [⟨.declared, "Expected identifier after 'display'."⟩]
  | .set =>
    [⟨.kind .identifier, "Expected identifier after 'set'."⟩,
      ⟨.word "=", "Expected '=' after identifier."⟩, ⟨.any, "Expected value after '='."⟩]
  | .importModule => [⟨.kind .identifier, "Expected module name after 'import'."⟩]
  | .exit => []

/-- The node of a statement whose slots gave these leaves. -/
def node (rule : Rule) (leaves : List String) : Tree :=
  .withLeaves rule.label (rule.keyword :: leaves)

theorem mem_all (rule : Rule) : rule ∈ all := by
  cases rule <;> decide

end Rule

end Scl
