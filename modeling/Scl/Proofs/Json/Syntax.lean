import Scl.Proofs.Json.Lexeme

/-! # Well-formed JSON

The grammar of JSON, as a description of texts that refers to no reader. A value is a literal, a
number, a string, or a list or an object of values; blanks may stand around all of its parts. A
string is a list of pieces, and what it means is computed from them, if they mean anything: half of
a surrogate pair is well formed and means nothing.
-/

namespace Scl.Json

/-- Blanks between the parts of a text. -/
structure Gap where
  text : String
  blank : Blank text

namespace Gap

def none : Gap :=
  ⟨"", blank_empty⟩

def bytes (gap : Gap) : List UInt8 :=
  Text.encodeUtf8 gap.text

theorem encodeUtf8_text (gap : Gap) : Text.encodeUtf8 gap.text = gap.bytes := rfl

theorem isBlank_of_mem (gap : Gap) : ∀ byte ∈ gap.bytes, Reader.isBlank byte = true :=
  fun _ => isBlank_of_mem_encodeUtf8 gap.blank

end Gap

/-- A hexadecimal digit, in a small or in a capital letter if it is one. -/
structure HexDigit where
  value : Fin 16
  capital : Bool

def HexDigit.char (digit : HexDigit) : Char :=
  let small := Nat.digitChar digit.value
  if digit.capital then small.toUpper else small

/-- A code unit in four hexadecimal digits. -/
structure CodeUnit where
  first : HexDigit
  second : HexDigit
  third : HexDigit
  fourth : HexDigit

namespace CodeUnit

/-- The digits of a code unit, the highest first. -/
def digits (unit : CodeUnit) : List HexDigit :=
  [unit.first, unit.second, unit.third, unit.fourth]

def number (unit : CodeUnit) : Nat :=
  unit.digits.foldl (fun number digit => number * 16 + digit.value) 0

def write (unit : CodeUnit) : String :=
  String.ofList (unit.digits.map HexDigit.char)

end CodeUnit

/-- The letters behind a backslash, each with the character that it stands for. -/
def letterEscapes : List (Char × Char) :=
  [('"', '"'), ('\\', '\\'), ('/', '/'), ('b', '\x08'), ('f', '\x0c'), ('n', '\n'), ('r', '\r'),
    ('t', '\t')]

/-- A piece of a string. -/
inductive Piece where
  /-- A character as it is. -/
  | plain (c : Char) (notQuote : c ≠ '"') (notBackslash : c ≠ '\\') (shown : 0x20 ≤ c.toNat)
  /-- A letter behind a backslash. -/
  | letter (written meant : Char) (known : (written, meant) ∈ letterEscapes)
  /-- A code unit behind a backslash and the letter `u`. -/
  | unit (code : CodeUnit)

def Piece.write : Piece → String
  | .plain c .. => c.toString
  | .letter written .. => "\\" ++ written.toString
  | .unit code => "\\u" ++ code.write

/-- The characters that pieces stand for. A code unit that is half of a pair needs the other half
behind it. -/
def Piece.meaning : List Piece → Option (List Char)
  | [] => some []
  | .plain c .. :: pieces => (meaning pieces).map (c :: ·)
  | .letter _ meant _ :: pieces => (meaning pieces).map (meant :: ·)
  | .unit code :: pieces =>
    if Reader.isLowSurrogate code.number then none
    else if Reader.isHighSurrogate code.number then
      match pieces with
      | .unit low :: pieces =>
        if Reader.isLowSurrogate low.number then
          let number := 0x10000 + (code.number - 0xD800) * 0x400 + (low.number - 0xDC00)
          (meaning pieces).map (Char.ofNat number :: ·)
        else none
      | _ => none
    else (meaning pieces).map (Char.ofNat code.number :: ·)

/-- A string in its quotes. -/
structure Quoted where
  pieces : List Piece

namespace Quoted

def write (quoted : Quoted) : String :=
  "\"" ++ String.join (quoted.pieces.map Piece.write) ++ "\""

/-- The text that a string stands for, if it stands for one. -/
def meaning (quoted : Quoted) : Option String :=
  (Piece.meaning quoted.pieces).map String.ofList

/-- The characters of a text that may stand in a string as they are. -/
def plain (text : String) : Quoted where
  pieces := text.toList.filterMap fun c =>
    if plain : c ≠ '"' ∧ c ≠ '\\' ∧ 0x20 ≤ c.toNat then
      some (.plain c plain.1 plain.2.1 plain.2.2)
    else none

end Quoted

/-- Decimal digits, one or more. -/
structure Digits where
  first : Fin 10
  others : List (Fin 10)

def Digits.write (digits : Digits) : String :=
  String.ofList ((digits.first :: digits.others).map fun digit => Nat.digitChar digit.val)

/-- The exponent of a number, with its mark and perhaps a sign. -/
structure Exponent where
  capital : Bool
  /-- Whether the sign is a minus, if there is a sign. -/
  minus? : Option Bool
  digits : Digits

def Exponent.write (exponent : Exponent) : String :=
  (if exponent.capital then "E" else "e") ++
    exponent.minus?.elim "" (fun minus => if minus then "-" else "+") ++ exponent.digits.write

/-- A number of any size. Only the number zero starts with the digit zero, if there is no point. -/
structure Numeral where
  negative : Bool
  whole : Digits
  single : whole.first = 0 → whole.others = []
  fraction? : Option Digits
  exponent? : Option Exponent

def Numeral.write (numeral : Numeral) : String :=
  (if numeral.negative then "-" else "") ++ numeral.whole.write ++
    numeral.fraction?.elim "" ("." ++ ·.write) ++ numeral.exponent?.elim "" Exponent.write

/-- What the rules of the grammar describe. -/
inductive Part where
  | value
  /-- One entry between brackets, with the blanks in front of it. -/
  | entry (bracket : Bracket)
  /-- All the entries between brackets, if there are any. -/
  | entries (bracket : Bracket)

/-- The rules of the grammar. -/
inductive Grammar : Part → String → Prop where
  | null : Grammar .value "null"
  | boolean (value : Bool) : Grammar .value (if value then "true" else "false")
  | number (numeral : Numeral) : Grammar .value numeral.write
  | string (quoted : Quoted) : Grammar .value quoted.write
  | empty (bracket : Bracket) (gap : Gap) :
    Grammar .value
      ((Lexeme.opening bracket).write ++ gap.text ++ (Lexeme.closing bracket).write)
  | bracketed {bracket : Bracket} {entries : String} (inside : Grammar (.entries bracket) entries) :
    Grammar .value
      ((Lexeme.opening bracket).write ++ entries ++ (Lexeme.closing bracket).write)
  | item {value : String} (gap : Gap) (item : Grammar .value value) :
    Grammar (.entry .list) (gap.text ++ value)
  | member {value : String} (gap : Gap) (name : Quoted) (before after : Gap)
    (member : Grammar .value value) :
    Grammar (.entry .object) (gap.text ++ name.write ++ before.text ++ ":" ++ after.text ++ value)
  | last {bracket : Bracket} {entry : String} (first : Grammar (.entry bracket) entry) (gap : Gap) :
    Grammar (.entries bracket) (entry ++ gap.text)
  | more {bracket : Bracket} {entry entries : String} (first : Grammar (.entry bracket) entry)
    (gap : Gap) (later : Grammar (.entries bracket) entries) :
    Grammar (.entries bracket) (entry ++ gap.text ++ "," ++ entries)

/-- A text is one complete value. -/
abbrev IsValue (text : String) : Prop :=
  Grammar .value text

end Scl.Json
