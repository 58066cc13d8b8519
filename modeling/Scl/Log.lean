import Scl.Event
import Scl.Text.AsciiCase
import Scl.Text.Quoted

/-! # Log

What a run did, as records. Each has a level and a target, the part of the program it comes from.
Which of them are written and what a line looks like is up to a logger, which a run is given and
which may add the time or colours to its lines. The plain one writes bare lines and understands
directives for targets; characters that could steer a terminal it writes by their numbers.
-/

namespace Scl.Log

/-- How much a record matters. -/
inductive Level where
  | error
  | warn
  | info
  | debug
  | trace
  deriving DecidableEq, Repr

namespace Level

/-- Every level, the most important first. -/
def all : List Level :=
  [.error, .warn, .info, .debug, .trace]

def name : Level → String
  | .error => "ERROR"
  | .warn => "WARN"
  | .info => "INFO"
  | .debug => "DEBUG"
  | .trace => "TRACE"

/-- The place of a level in the order of importance. -/
def rank : Level → Nat
  | .error => 1
  | .warn => 2
  | .info => 3
  | .debug => 4
  | .trace => 5

end Level

/-- One thing that happened. -/
structure Record where
  level : Level
  target : String
  message : String
  fields : List (String × String)
  deriving DecidableEq, Repr

def Record.ofEvent : Event → Record
  | .statement position value handler =>
    { level := .debug
      target := "scl_parser::parser::parser"
      message := (if handler.isSome then "statement" else "unknown statement") ++ s!" '{value}'"
      fields :=
        ("position", toString position) ::
          handler.toList.map fun handler => ("handler", handler.name) }
  | .consumed position value =>
    { level := .trace
      target := "scl_parser::parser::helpers"
      message := s!"consume '{value}'"
      fields := [("position", toString position)] }
  | .undeclared warning =>
    { level := .warn
      target := "scl_parser::parser::statements"
      message := warning.message
      fields := [("position", toString warning.position)] }

def Record.ofLoaded (count : Nat) (path : String) : Record :=
  { level := .debug
    target := "scl_parser::loader"
    message := s!"loaded {count} tokens from {path}"
    fields := [] }

/-- A character of a message as its line shows it. -/
def shownChar (c : Char) : String :=
  if c = '\x1b' ∨ c = '\x7f' then "\\x" ++ Text.hex c.toNat
  else if c = '\x07' ∨ c = '\x08' ∨ c = '\x0c' then "\\x0" ++ Text.hex c.toNat
  else if 0x80 ≤ c.toNat ∧ c.toNat < 0xA0 then Text.byNumber c
  else c.toString

def shown (message : String) : String :=
  String.join (message.toList.map shownChar)

/-- The bare line of a record. -/
def Record.line (record : Record) : String :=
  let name := record.level.name
  let pad := String.ofList (List.replicate (5 - name.length) ' ')
  let fields := record.fields.map fun (field, value) => s!" {field}={value}"
  pad ++ name ++ " " ++ record.target ++ ": " ++ shown record.message ++ String.join fields ++ "\n"

/-- What filters and writes a log. A run hands over what it was asked for and what happened, and
reads nothing back. -/
structure Logger where
  /-- The ways to choose among records. -/
  Choice : Type
  /-- The choice that a description asks for, if it can be understood. -/
  ofDescription? : String → Option Choice
  upTo : Level → Choice
  /-- The text of the records that are chosen. -/
  text : Choice → List Record → String

/-- Whoever wants a longer log gets everything up to `debug`. Otherwise a description decides, and
warnings are written if there is none or it cannot be understood. -/
def Logger.choice (logger : Logger) (longer : Bool) (description : Option String) : logger.Choice :=
  if longer then logger.upTo .debug
  else (description.bind logger.ofDescription?).getD (logger.upTo .warn)

/-- For the records whose target begins with `target`, how far they are written. -/
structure Directive where
  target : String
  /-- The least important level that is written, if any is. -/
  limit : Option Level
  deriving DecidableEq, Repr

namespace Directive

def covers (directive : Directive) (target : String) : Bool :=
  directive.target.toList.isPrefixOf target.toList

def reaches (directive : Directive) (level : Level) : Bool :=
  directive.limit.any fun limit => level.rank ≤ limit.rank

/-- The limit that a word names: a level by its name or its rank, or none at all. -/
def limit? (word : String) : Option (Option Level) :=
  if Text.sameWord word "off" || word == "0" then some none
  else
    (Level.all.find? fun level =>
      Text.sameWord word level.name || word == toString level.rank).map some

/-- A target, as far as targets can be told from mistakes. -/
def target? (word : String) : Option String :=
  if word.toList.head?.any fun c => c.isAlphanum || "-:_".contains c then some word else none

/-- A directive is a limit for all targets, a target that is written in full, or both with an equals
sign between them. -/
def ofText? (text : String) : Option Directive :=
  match text.splitOn "=" with
  | [word] =>
    match limit? word with
    | some limit => some ⟨"", limit⟩
    | none => (target? word).map (⟨·, some .trace⟩)
  | [target, ""] => (target? target).map (⟨·, some .trace⟩)
  | [target, word] => do return ⟨← target? target, ← limit? word⟩
  | _ => none

end Directive

/-- Directives that choose among records. -/
structure Filter where
  directives : List Directive
  deriving DecidableEq, Repr

namespace Filter

/-- The directive for a target is the one that covers it with the longest beginning, and the last of
several such. -/
def deciding? (filter : Filter) (target : String) : Option Directive :=
  filter.directives.foldl (fun found directive =>
    if directive.covers target &&
        found.all (·.target.length ≤ directive.target.length) then some directive
    else found) none

def admits (filter : Filter) (record : Record) : Bool :=
  (filter.deciding? record.target).any (·.reaches record.level)

/-- Everything up to a level. -/
def upTo (level : Level) : Filter :=
  ⟨[⟨"", some level⟩]⟩

/-- A description is a list of directives with commas between them. An empty one asks for errors. -/
def ofDescription? (description : String) : Option Filter := do
  match ← ((description.splitOn ",").filter (· ≠ "")).mapM Directive.ofText? with
  | [] => return upTo .error
  | directives => return ⟨directives⟩

end Filter

/-- The lines of the records that a filter lets through. -/
def lines (filter : Filter) (records : List Record) : String :=
  String.join ((records.filter filter.admits).map Record.line)

/-- Writes bare lines, with neither the time nor colours. -/
def plain : Logger where
  Choice := Filter
  ofDescription? := Filter.ofDescription?
  upTo := Filter.upTo
  text := lines

end Scl.Log
