import Scl.Grammar
import Scl.Text.LowerCase

/-! # Keywords

The word at the start of a statement decides how the statement is read: by a rule, as a
placeholder for a reserved word without a grammar, or not at all. The case of the word does not
matter.
-/

namespace Scl

/-- The words that are reserved for statements without a grammar yet. -/
def reservedWords : List String :=
  ["if", "else", "while", "print", "return", "main", "declare", "length", "begin", "end",
    "function", "procedure", "program", "class", "interface", "list", "object", "const", "true",
    "false", "and", "or", "not"]

/-- What stands below the node of a reserved word. -/
def notImplemented : String :=
  "Not implemented yet"

def placeholder (word : String) : Tree :=
  .withLeaves (word ++ "Statement") [notImplemented]

def unknownStatement (value : String) : Tree :=
  .withLeaves "UnknownStatement" [value]

/-- How a statement is read once its first word is known. -/
inductive Handler where
  /-- The slots of the rule follow. -/
  | rule (rule : Rule)
  /-- Nothing follows, and the node is a placeholder. -/
  | placeholder (word : String)
  deriving DecidableEq, Repr

namespace Handler

/-- The handler of every keyword. -/
def table : List (String × Handler) :=
  Rule.all.map (fun rule => (rule.keyword, .rule rule)) ++
    reservedWords.map fun word => (word, .placeholder word)

/-- The handler of the keyword that a word spells, if it spells one. -/
def lookup (word : String) : Option Handler :=
  table.lookup (Text.lowerCase word)

def name : Handler → String
  | .rule _ => "Rule"
  | .placeholder word => s!"Stub({word})"

theorem table_nodup : (table.map Prod.fst).Nodup := by
  decide

end Handler

end Scl
