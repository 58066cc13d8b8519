import Scl.Json.Skip

/-! # JSON documents

A document is one array of items of one shape, with blanks around it. Where a value of another
shape stands, the fault names that value, so as much of it is read as its name needs.
-/

namespace Scl.Json

namespace Reader

variable {α : Type}

/-- Reads the value that starts with a byte looked at, as far as its name needs. -/
def found (byte : UInt8) : Reader Found := do
  if byte = 'n'.toUInt8 then
    skip
    word "ull"
    return .null
  else if byte = 't'.toUInt8 then
    skip
    word "rue"
    return .boolean true
  else if byte = 'f'.toUInt8 then
    skip
    word "alse"
    return .boolean false
  else if byte = '-'.toUInt8 then
    skip
    number true
  else if isDigit byte then number false
  else if byte = quote then
    skip
    return .string (← string)
  else if byte = Bracket.opening .list then return .sequence
  else if byte = Bracket.opening .object then return .map
  else failAhead .expectedValue

/-- Fails because the value that starts with a byte looked at is not the wanted one. -/
def mismatch (byte : UInt8) (wanted : String) : Reader α := do
  fail (.invalidType (← found byte) wanted)

def text : Reader String := do
  let byte ← need
  if byte = quote then
    skip
    string
  else mismatch byte "a string"

def listOf (item : Reader α) : Reader (List α) := do
  let byte ← need
  if byte = Bracket.opening .list then
    let reversed ← within .list (members .list (fun items => return (← item) :: items) [])
    return reversed.reverse
  else mismatch byte "a sequence"

/-- Reads a document, behind which only blanks may stand. -/
def document (item : Reader α) : Reader (List α) := do
  let items ← listOf item
  match ← blanks with
  | none => return items
  | some _ => failAhead .trailingCharacters

end Reader

/-- The items of a document in the bytes of a source. -/
def readDocument {α : Type} (item : Reader α) (source : Source) (bytes : List UInt8) :
    Except Error (List α) :=
  match ((Reader.document item).run (.ofBytes source bytes)).1 with
  | .ok items => .ok items
  | .error fault => .error ⟨fault.cause, fault.place.map (·.resolve bytes)⟩

end Scl.Json
