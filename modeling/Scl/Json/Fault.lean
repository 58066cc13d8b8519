import Scl.Text.Quoted
import Scl.Token

/-! # Faults of JSON text

What can be wrong with a JSON text, and where. A cause is named without the place at which it was
found, and a place is a number of bytes. Which number belongs to a fault is left to the reader,
which knows the source of the bytes.
-/

namespace Scl.Json

/-- A value that stands where another one was wanted. -/
inductive Found where
  | null
  | boolean (value : Bool)
  | natural (value : Nat)
  | negative (magnitude : Nat)
  /-- A number that is no integer, in its shortest decimal form. -/
  | decimal (text : String)
  | string (text : String)
  | sequence
  | map
  deriving DecidableEq, Repr

/-- The name of a value in messages. -/
def Found.describe : Found → String
  | .null => "null"
  | .boolean value => s!"boolean `{value}`"
  | .natural value => s!"integer `{value}`"
  | .negative magnitude => s!"integer `-{magnitude}`"
  | .decimal text => s!"floating point `{text}`"
  | .string text => "string " ++ Text.quoted text
  | .sequence => "sequence"
  | .map => "map"

/-- The classes of causes. -/
inductive Category where
  /-- The text could not be read to its end. -/
  | io
  /-- The text is no JSON. -/
  | syntactic
  /-- The text is JSON, but not of the wanted shape. -/
  | data
  /-- The text ends too early. -/
  | eof
  deriving DecidableEq, Repr

/-- What is wrong. -/
inductive Cause where
  | endInValue
  | endInString
  | endInList
  | endInObject
  | expectedValue
  | expectedIdent
  | expectedColon
  | expectedListSeparator
  | expectedObjectSeparator
  | keyNotString
  | trailingComma
  | trailingCharacters
  | invalidNumber
  | numberOutOfRange
  | invalidEscape
  | loneSurrogate
  | unfinishedSurrogatePair
  | controlCharacter
  | invalidUnicode
  | invalidType (found : Found) (wanted : String)
  | invalidLength (length : Nat)
  | missingField (name : String)
  | duplicateField (name : String)
  | unknownVariant (name : String)
  | isFolder
  deriving DecidableEq, Repr

namespace Cause

/-- The names that a kind may have, as a message lists them. -/
def kindNames : String :=
  ", ".intercalate (Token.Kind.all.map fun kind => s!"`{kind.capitalName}`, `{kind.name}`")

def message : Cause → String
  | .endInValue => "EOF while parsing a value"
  | .endInString => "EOF while parsing a string"
  | .endInList => "EOF while parsing a list"
  | .endInObject => "EOF while parsing an object"
  | .expectedValue => "expected value"
  | .expectedIdent => "expected ident"
  | .expectedColon => "expected `:`"
  | .expectedListSeparator => "expected `,` or `]`"
  | .expectedObjectSeparator => "expected `,` or `\x7d`"
  | .keyNotString => "key must be a string"
  | .trailingComma => "trailing comma"
  | .trailingCharacters => "trailing characters"
  | .invalidNumber => "invalid number"
  | .numberOutOfRange => "number out of range"
  | .invalidEscape => "invalid escape"
  | .loneSurrogate => "lone leading surrogate in hex escape"
  | .unfinishedSurrogatePair => "unexpected end of hex escape"
  | .controlCharacter => "control character (\\u0000-\\u001F) found while parsing a string"
  | .invalidUnicode => "invalid unicode code point"
  | .invalidType found wanted => s!"invalid type: {found.describe}, expected {wanted}"
  | .invalidLength length => s!"invalid length {length}, expected struct Token with 2 elements"
  | .missingField name => s!"missing field `{name}`"
  | .duplicateField name => s!"duplicate field `{name}`"
  | .unknownVariant name => s!"unknown variant `{name}`, expected one of {kindNames}"
  | .isFolder => "Is a directory (os error 21)"

def category : Cause → Category
  | .endInValue | .endInString | .endInList | .endInObject => .eof
  | .invalidType .. | .invalidLength _ | .missingField _ | .duplicateField _
  | .unknownVariant _ => .data
  | .isFolder => .io
  | _ => .syntactic

end Cause

/-- Where the bytes of a text come from. -/
inductive Source where
  /-- A text that is all there. -/
  | text
  /-- A stream that is read byte by byte. -/
  | stream
  deriving DecidableEq, Repr

/-- A place in a text. -/
structure Place where
  /-- The number of bytes before it. -/
  count : Nat
  /-- How far the column lies to the left of the last byte counted. -/
  back : Nat
  deriving DecidableEq, Repr

/-- A place as people count: lines from one, and the bytes of the last line. -/
structure Position where
  line : Nat
  column : Nat
  deriving DecidableEq, Repr

/-- The position after the first `count` bytes. -/
def Position.after (bytes : List UInt8) (count : Nat) : Position :=
  let before := bytes.take count
  { line := 1 + before.count 10
    column := (before.reverse.takeWhile (· != 10)).length }

/-- The position of a place among the bytes of a text. -/
def Place.resolve (place : Place) (bytes : List UInt8) : Position :=
  let position := Position.after bytes place.count
  { position with column := position.column - place.back }

/-- A cause and its place. A fault that concerns an array or an object as a whole has no place
until reading has left it. -/
structure Fault where
  cause : Cause
  place : Option Place
  deriving DecidableEq, Repr

/-- What is wrong with a text, and where. A text that cannot be read has no position. -/
structure Error where
  cause : Cause
  position : Option Position
  deriving DecidableEq, Repr

def Error.message (error : Error) : String :=
  match error.position with
  | some ⟨line, column⟩ => s!"{error.cause.message} at line {line} column {column}"
  | none => error.cause.message

end Scl.Json
