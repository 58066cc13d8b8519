import Scl.Program

/-! # Operations on a session

Everything that can be asked of a session, as data, so that a whole history of a session is a list
of operations. Each operation gives one answer and the session after it; an operation that fails
answers with its error.
-/

namespace Scl

/-- What can be asked of a session. -/
inductive Session.Operation where
  /-- Was every token passed? -/
  | isAtEnd
  /-- Which token is next? -/
  | peek
  /-- Pass the next token. -/
  | advance
  /-- Is the next token of this kind? -/
  | nextIs (kind : Token.Kind)
  /-- Pass the next token if it spells this word. -/
  | matchWord (word : String)
  /-- Pass a token of this kind, or fail with this sentence. -/
  | expectKind (kind : Token.Kind) (expected : String)
  /-- Pass a token that spells this word, or fail with this sentence. -/
  | expectWord (word expected : String)
  /-- Pass tokens that spell these words. -/
  | expectWords (words : List String)
  /-- Pass any token, or fail with this sentence. -/
  | expectAny (expected : String)
  /-- Read what follows the keyword of this rule. -/
  | statement (rule : Rule)
  /-- Make the node of this reserved word. -/
  | placeholder (word : String)
  /-- Look the word up and read what follows it, if it is a keyword. -/
  | dispatch (word : String)
  /-- Read the whole program from its first token. -/
  | program
  /-- Which warnings were found? -/
  | warnings
  /-- Use this oracle from now on. -/
  | consult (oracle : Option Oracle)

/-- What an operation answers. -/
inductive Session.Answer where
  | flag (value : Bool)
  | token (token : Option Token)
  | tree (tree : Tree)
  | warnings (warnings : List Warning)
  | done
  | absent
  | failed (error : ParseError)
  deriving DecidableEq

namespace Session

/-- The answer of an action and the session after it. -/
def perform {α : Type} (session : Session) (action : Parsing α) (answer : α → Answer) :
    Answer × Session :=
  match action session with
  | .ok value after => (answer value, after)
  | .error error after => (.failed error, after)

def step (session : Session) : Operation → Answer × Session
  | .isAtEnd => (.flag session.isAtEnd, session)
  | .peek => (.token session.peek, session)
  | .advance => session.perform Parsing.advance .token
  | .nextIs kind => (.flag (session.nextIs kind), session)
  | .matchWord word => session.perform (Parsing.matchWord word) .flag
  | .expectKind kind expected =>
    session.perform (Parsing.expectKind kind expected) fun token => .token (some token)
  | .expectWord word expected =>
    session.perform (Parsing.expectWord word expected) fun _ => .done
  | .expectWords words => session.perform (Parsing.expectWords words) fun _ => .done
  | .expectAny expected =>
    session.perform (Parsing.expectAny expected) fun token => .token (some token)
  | .statement rule => session.perform (Parsing.statement rule) .tree
  | .placeholder word => (.tree (Scl.placeholder word), session)
  | .dispatch word =>
    match Handler.lookup word with
    | none => (.absent, session)
    | some handler => session.perform (Parsing.handle word (some handler)) .tree
  | .program => session.perform Parsing.program .tree
  | .warnings => (.warnings session.warnings, session)
  | .consult oracle => (.done, session.consulting oracle)

/-- Carries out operations in turn, and gives each answer with the session after it. -/
def run (session : Session) : List Operation → List (Answer × Session)
  | [] => []
  | operation :: operations =>
    let (answer, after) := session.step operation
    (answer, after) :: after.run operations

end Session

end Scl
