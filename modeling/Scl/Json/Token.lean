import Scl.Json.Document

/-! # Tokens in JSON text

A token is an object with the members `type` and `value`, in any order and among any others, or the
array of the two. A kind is its name, in capital or in small letters, or an object whose only
member has that name and the value `null`. Written, a token is the object with `type` first and
the capital name.
-/

namespace Scl.Json

namespace Reader

/-- The kind of a name that was just read. -/
def kindOfName (name : String) : Reader Token.Kind :=
  match Token.Kind.ofName? name with
  | some kind => pure kind
  | none => fail (.unknownVariant name)

def kind : Reader Token.Kind := do
  let byte ← need
  if byte = quote then
    skip
    kindOfName (← string)
  else if byte = Bracket.opening .object then
    skip
    match ← blanks with
    | none => failAhead .endInObject
    | some byte =>
      if byte = Bracket.closing .object then failAhead .expectedValue
      if byte ≠ quote then failAhead .keyNotString
    skip
    let kind ← kindOfName (← string)
    colon
    let byte ← need
    if byte ≠ 'n'.toUInt8 then mismatch byte "unit"
    skip
    word "ull"
    match ← blanks with
    | none => fail .endInObject
    | some byte =>
      if byte ≠ Bracket.closing .object then fail .expectedValue
      skip
      return kind
  else failAhead .expectedValue

/-- Reads the two items of a token that is an array. -/
def tokenItems : Reader Token := do
  if !(← startsMember .list) then failLater (.invalidLength 0)
  let kind ← kind
  if !(← startsNextMember .list) then failLater (.invalidLength 1)
  let value ← text
  return ⟨kind, value⟩

/-- The members of a token read so far. -/
structure TokenFields where
  kind : Option Token.Kind
  value : Option String

def tokenMember (fields : TokenFields) : Reader TokenFields := do
  if (← peek) ≠ some quote then failAhead .keyNotString
  skip
  let name ← string
  if name = "type" then
    if fields.kind.isSome then failLater (.duplicateField name)
    colon
    return { fields with kind := some (← kind) }
  else if name = "value" then
    if fields.value.isSome then failLater (.duplicateField name)
    colon
    return { fields with value := some (← text) }
  else
    colon
    skipValue
    return fields

def tokenMembers : Reader Token := do
  let fields ← members .object tokenMember ⟨none, none⟩
  match fields.kind, fields.value with
  | some kind, some value => return ⟨kind, value⟩
  | none, _ => failLater (.missingField "type")
  | _, none => failLater (.missingField "value")

def token : Reader Token := do
  let byte ← need
  if byte = Bracket.opening .list then within .list tokenItems
  else if byte = Bracket.opening .object then within .object tokenMembers
  else mismatch byte "struct Token"

end Reader

/-- A character inside a written string. Only quotes, backslashes and the first 32 characters need
an escape. -/
def escapeChar (c : Char) : String :=
  if c = '"' then "\\\""
  else if c = '\\' then "\\\\"
  else if c = '\x08' then "\\b"
  else if c = '\x0c' then "\\f"
  else if c = '\n' then "\\n"
  else if c = '\r' then "\\r"
  else if c = '\t' then "\\t"
  else if c.toNat < 0x10 then "\\u000" ++ Text.hex c.toNat
  else if c.toNat < 0x20 then "\\u00" ++ Text.hex c.toNat
  else c.toString

def writeString (text : String) : String :=
  "\"" ++ String.join (text.toList.map escapeChar) ++ "\""

def writeToken (token : Token) : String :=
  "\x7b\"type\":" ++ writeString token.kind.capitalName ++ ",\"value\":" ++
    writeString token.value ++ "\x7d"

end Scl.Json
