import Scl.Event
import Scl.Oracle
import Scl.ParseError

/-! # Sessions

A session is a reading of a list of tokens under way. Its cursor stands between the tokens passed
and the tokens to come, so it can never leave the list, and reading on depends on the tokens to
come alone. Beside the cursor a session holds the oracle in use, the warnings found so far and the
trace of what was done; whatever grows is kept with its latest entry first.
-/

namespace Scl

/-- A reading under way. -/
structure Session where
  /-- The tokens before the cursor, the latest first. -/
  passed : List Token
  /-- The tokens after the cursor. -/
  rest : List Token
  /-- The number of tokens before the cursor. -/
  position : Nat
  position_eq : position = passed.length
  /-- Who knows the declared names, if anyone does. -/
  oracle : Option Oracle
  /-- The warnings found, the latest first. -/
  found : List Warning
  /-- The events so far, the latest first. -/
  past : List Event

namespace Session

/-- A session before the first of the tokens. -/
def start (tokens : List Token) (oracle : Option Oracle) : Session :=
  { passed := [], rest := tokens, position := 0, position_eq := rfl, oracle
    found := [], past := [] }

/-- All the tokens, passed and to come. -/
def tokens (session : Session) : List Token :=
  session.passed.reverse ++ session.rest

/-- The warnings found, in order. -/
def warnings (session : Session) : List Warning :=
  session.found.reverse

/-- The events so far, in order. -/
def trace (session : Session) : List Event :=
  session.past.reverse

def peek (session : Session) : Option Token :=
  session.rest.head?

def isAtEnd (session : Session) : Bool :=
  session.rest.isEmpty

def nextIs (session : Session) (kind : Token.Kind) : Bool :=
  session.peek.any (·.kind == kind)

/-- The session back before its first token, with nothing found yet. -/
def restart (session : Session) : Session :=
  start session.tokens session.oracle

/-- The same session with another oracle. -/
def consulting (session : Session) (oracle : Option Oracle) : Session :=
  { session with oracle }

def note (session : Session) (event : Event) : Session :=
  { session with past := event :: session.past }

def warn (session : Session) (warning : Warning) : Session :=
  { session.note (.undeclared warning) with found := warning :: session.found }

/-- The session whose cursor passed `token` and now stands before `rest`. -/
def pass (session : Session) (token : Token) (rest : List Token) : Session :=
  { session.note (.consumed session.position token.value) with
    passed := token :: session.passed
    rest
    position := session.position + 1
    position_eq := congrArg (· + 1) session.position_eq }

/-- The error of a slot that is not filled at the cursor. -/
def failure (session : Session) (expected : String) : ParseError :=
  { position := session.position, found := session.peek.map (·.value), expected }

/-! ## What each step does to the parts of a session -/

section Parts

variable (session : Session) (event : Event) (warning : Warning) (token : Token)
  (rest : List Token)

@[simp] theorem rest_note : (session.note event).rest = session.rest := rfl

@[simp] theorem rest_warn : (session.warn warning).rest = session.rest := rfl

@[simp] theorem rest_pass : (session.pass token rest).rest = rest := rfl

@[simp] theorem position_note : (session.note event).position = session.position := rfl

@[simp] theorem position_warn : (session.warn warning).position = session.position := rfl

@[simp] theorem position_pass : (session.pass token rest).position = session.position + 1 := rfl

@[simp] theorem warnings_note : (session.note event).warnings = session.warnings := rfl

@[simp] theorem warnings_warn :
    (session.warn warning).warnings = session.warnings ++ [warning] := by
  simp [warnings, warn]

@[simp] theorem warnings_pass : (session.pass token rest).warnings = session.warnings := rfl

@[simp] theorem trace_note : (session.note event).trace = session.trace ++ [event] := by
  simp [trace, note]

@[simp] theorem trace_warn :
    (session.warn warning).trace = session.trace ++ [.undeclared warning] := by
  simp [trace, warn, note]

@[simp] theorem trace_pass :
    (session.pass token rest).trace =
      session.trace ++ [.consumed session.position token.value] := by
  simp [trace, pass, note]

end Parts

/-- Passing the next token does not change which tokens there are. -/
theorem tokens_pass {session : Session} {token : Token} {rest : List Token}
    (next : session.rest = token :: rest) :
    (session.pass token rest).tokens = session.tokens := by
  simp [tokens, pass, next]

theorem position_le (session : Session) : session.position ≤ session.tokens.length := by
  simp [tokens, session.position_eq]

theorem rest_eq_drop (session : Session) : session.rest = session.tokens.drop session.position := by
  rw [tokens, session.position_eq, ← List.length_reverse, List.drop_left]

theorem peek_eq_getElem? (session : Session) :
    session.peek = session.tokens[session.position]? := by
  rw [peek, rest_eq_drop, List.head?_drop]

end Session

end Scl
