/-! # Tokens

A token is a word of an SCL program together with the class that the tokenizer gave it. Its place
is its place in the list of tokens, so it carries no position of its own.
-/

namespace Scl

/-- The classes of tokens. -/
inductive Token.Kind where
  /-- A word of the language, such as `define` or `integer`. -/
  | keyword
  /-- A name chosen by the program. -/
  | identifier
  /-- A number, such as `42`. -/
  | number
  /-- An operator, such as `=`. -/
  | operator
  /-- A punctuation mark, such as `(`. -/
  | symbol
  /-- A quoted text. -/
  | string
  /-- What the tokenizer could not classify. -/
  | unknown
  deriving DecidableEq, Repr

namespace Token.Kind

/-- Every kind, in the order in which messages list them. -/
def all : List Kind :=
  [.keyword, .identifier, .number, .operator, .symbol, .string, .unknown]

def name : Kind → String
  | .keyword => "keyword"
  | .identifier => "identifier"
  | .number => "number"
  | .operator => "operator"
  | .symbol => "symbol"
  | .string => "string"
  | .unknown => "unknown"

/-- The name of a kind in capital letters, as token files write it. -/
def capitalName : Kind → String
  | .keyword => "KEYWORD"
  | .identifier => "IDENTIFIER"
  | .number => "NUMBER"
  | .operator => "OPERATOR"
  | .symbol => "SYMBOL"
  | .string => "STRING"
  | .unknown => "UNKNOWN"

/-- The kind of this name. Both spellings are names, a mixture of them is not. -/
def ofName? (text : String) : Option Kind :=
  all.find? fun kind => text == kind.capitalName || text == kind.name

theorem ofName?_capitalName (kind : Kind) : ofName? kind.capitalName = some kind := by
  cases kind <;> decide

theorem ofName?_name (kind : Kind) : ofName? kind.name = some kind := by
  cases kind <;> decide

end Token.Kind

/-- A classified word. -/
structure Token where
  /-- The class that the tokenizer gave the word. -/
  kind : Token.Kind
  /-- The word exactly as written. -/
  value : String
  deriving DecidableEq, Repr

end Scl
