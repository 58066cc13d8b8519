/-! # Text for a terminal

A terminal takes some characters as commands: single control characters, and sequences that start
with an escape character. A text that is shown plainly loses them. White space is always kept. If
it stands inside a sequence, the sequence waits: what follows is kept as well, up to the next
control character, where the sequence goes on.
-/

namespace Scl.Text

/-- The sequences of a terminal, by what may still follow. -/
inductive Sequence where
  /-- No sequence. -/
  | none
  /-- The escape character was met. -/
  | escape
  /-- Some sequence of two parts, whose second part is one character. -/
  | designation
  /-- A control sequence: parameters and then one letter. -/
  | control
  /-- The parameters of a device string, before the letter that ends them. -/
  | deviceHeader
  /-- A string that only a terminator ends. -/
  | string
  /-- A command string, which a bell ends. -/
  | command
  deriving DecidableEq, Repr

namespace Sequence

/-- The sequence after an escape character and one more. -/
def start (c : Char) : Sequence :=
  if c = '[' then .control
  else if c = ']' then .command
  else if c = 'P' then .deviceHeader
  else if c = 'X' ∨ c = '^' ∨ c = '_' then .string
  else if ' ' ≤ c ∧ c ≤ '/' then .designation
  else .none

/-- Whether a character, in its bytes, holds the terminator of a string. -/
def holdsTerminator (c : Char) : Bool :=
  (String.utf8EncodeChar c).contains 0x9C

/-- The sequence after a character that belongs to it and is no control character. -/
def next (sequence : Sequence) (c : Char) : Sequence :=
  match sequence with
  | .none => .none
  | .escape => if c.toNat < 0x7F then start c else .escape
  | .designation => if '0' ≤ c ∧ c ≤ '~' then .none else .designation
  | .control => if '@' ≤ c ∧ c ≤ '~' then .none else .control
  | .deviceHeader => if '@' ≤ c ∧ c ≤ '~' then .string else .deviceHeader
  | .string => if holdsTerminator c then .none else .string
  | .command => .command

/-- Whether white space inside the sequence is kept. -/
def keepsSpace : Sequence → Bool
  | .none | .escape | .designation | .control => true
  | .deviceHeader | .string | .command => false

end Sequence

/-- A place in a text: the sequence that it is in, and whether the sequence waits. -/
structure TerminalPlace where
  sequence : Sequence
  waits : Bool
  deriving DecidableEq, Repr

def TerminalPlace.outside : TerminalPlace :=
  ⟨.none, false⟩

/-- The white space that a terminal keeps. -/
def isTerminalSpace (c : Char) : Bool :=
  c == ' ' || c == '\t' || c == '\n' || c == '\x0c' || c == '\r'

/-- Whether a character is a single control character. -/
def isTerminalControl (c : Char) : Bool :=
  c.toNat < 0x20 || c.toNat == 0x7F

/-- The place after a control character that is no white space. An escape character starts a
sequence anew; cancelling and substituting end it, and a bell ends a command string. -/
def TerminalPlace.afterControl (place : TerminalPlace) (c : Char) : TerminalPlace :=
  if c = '\x1b' then ⟨.escape, false⟩
  else if c = '\x18' ∨ c = '\x1a' then .outside
  else if c = '\x07' ∧ place.sequence = .command then .outside
  else ⟨place.sequence, false⟩

/-- The characters that are kept of a text, from a place on. -/
def keptFrom (place : TerminalPlace) : List Char → List Char
  | [] => []
  | c :: rest =>
    if place.waits ∨ place.sequence = .none then
      if isTerminalControl c && !isTerminalSpace c then keptFrom (place.afterControl c) rest
      else c :: keptFrom (if c.toNat < 0x80 then place else .outside) rest
    else if isTerminalControl c then
      if isTerminalSpace c && place.sequence.keepsSpace then
        c :: keptFrom ⟨place.sequence, true⟩ rest
      else keptFrom (place.afterControl c) rest
    else keptFrom ⟨place.sequence.next c, false⟩ rest

/-- A text without what a terminal would take as a command. -/
def withoutCommands (text : String) : String :=
  String.ofList (keptFrom .outside text.toList)

end Scl.Text
