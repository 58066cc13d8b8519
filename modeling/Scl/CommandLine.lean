import Scl.CommandLine.Usage
import Scl.Diagnostic
import Scl.Load
import Scl.Log
import Scl.Names
import Scl.Program
import Scl.Tree.Walk

/-! # The command

The command loads a token file, and a name file if one is given, parses the tokens and prints the
tree. Warnings and errors are printed as diagnostics that name the token file by the path given, one
after the other; if one of them cannot be written, the run breaks off. What is logged stands before
them. How it is filtered and written is up to the logger that the run is given, and never changes
what else is printed.
-/

namespace Scl.CommandLine

/-- What a run prints, and its exit code. -/
structure Outcome where
  code : UInt32
  output : String
  errors : String
  deriving DecidableEq, Repr

/-- What a run depends on apart from its arguments. -/
structure Surroundings where
  files : String → Except OpenError Content
  /-- Which records the environment asks to be logged. -/
  description : Option String
  logger : Log.Logger
  /-- What is reported of a run that breaks off. -/
  notice : String

def Surroundings.log (surroundings : Surroundings) (arguments : Arguments)
    (records : List Log.Record) : String :=
  surroundings.logger.text
    (surroundings.logger.choice arguments.verbose surroundings.description) records

/-- How a run goes once its arguments make sense, with what it says behind the log. -/
inductive Result where
  | accepted (tree : Tree) (said : String)
  | stopped (said : String)
  /-- A diagnostic could not be written. -/
  | broken (said : String)

/-- The records of the log of a run, and how it went. -/
structure Report where
  records : List Log.Record
  result : Result

/-- The diagnostics that are written one after the other, as one text. It is an error if one of them
cannot be written; the text is then that of those before it. -/
def writeAll : List (Option String) → Except String String
  | [] => .ok ""
  | none :: _ => .error ""
  | some text :: others =>
    match writeAll others with
    | .ok later => .ok (text ++ later)
    | .error later => .error (text ++ later)

/-- What is said of an accepted program. -/
def Result.ofWarnings (listing : Listing) (tree : Tree) (warnings : List Warning) : Result :=
  match writeAll (warnings.map listing.renderWarning?) with
  | .ok said => .accepted tree said
  | .error said => .broken said

/-- What is said of a rejected program. -/
def Result.ofError (listing : Listing) (error : ParseError) : Result :=
  match listing.renderError? error with
  | some said => .stopped said
  | none => .broken ""

def Report.ofTokens (path : String) (tokens : List Token) (oracle : Option Oracle) : Report :=
  let listing : Listing := ⟨path, tokens⟩
  let loaded := Log.Record.ofLoaded tokens.length path
  match Parsing.program (.start tokens oracle) with
  | .ok tree after =>
    ⟨loaded :: after.trace.map Log.Record.ofEvent, .ofWarnings listing tree after.warnings⟩
  | .error error after =>
    ⟨loaded :: after.trace.map Log.Record.ofEvent, .ofError listing error⟩

/-- The text for a file that was not loaded. -/
def loadFailure (error : LoadError) : String :=
  s!"sclparse: {error.message}\n"

/-- The report of a run, given how paths are opened. The token file is loaded first. -/
def Report.ofArguments (openPath : String → Except OpenError Content) (arguments : Arguments) :
    Report :=
  match Load.tokens openPath arguments.tokens with
  | .error error => ⟨[], .stopped (loadFailure error)⟩
  | .ok tokens =>
    match arguments.identifiers.mapM (Load.names openPath) with
    | .error error =>
      ⟨[.ofLoaded tokens.length arguments.tokens], .stopped (loadFailure error)⟩
    | .ok names =>
      .ofTokens arguments.tokens tokens (names.map fun names => .ofNames (distinctNames names))

/-- What a report prints: the log first, then what the run has to say. The tree comes last, so
nothing is printed to the output by a run that breaks off. -/
def Report.outcome (log : List Log.Record → String) (notice : String) (report : Report) : Outcome :=
  let log := log report.records
  match report.result with
  | .accepted tree said => ⟨0, tree.render, log ++ said⟩
  | .stopped said => ⟨1, "", log ++ said⟩
  | .broken said => ⟨101, "", log ++ (said ++ notice)⟩

/-- What arguments that make sense lead to. -/
def Surroundings.execute (surroundings : Surroundings) (arguments : Arguments) : Outcome :=
  (Report.ofArguments surroundings.files arguments).outcome (surroundings.log arguments)
    surroundings.notice

/-- What a request leads to. -/
def Surroundings.answer (surroundings : Surroundings) : Request → Outcome
  | .run arguments => surroundings.execute arguments
  | .help => ⟨0, helpText, ""⟩
  | .version => ⟨0, versionText, ""⟩
  | .misuse misuse => ⟨2, "", misuse.message⟩

/-- What a request leads to with the plain logger. -/
def answer (openPath : String → Except OpenError Content) (description : Option String) :
    Request → Outcome :=
  Surroundings.answer
    { files := openPath
      description := description
      logger := Log.plain
      notice := "sclparse: a caret is too far to the right\n" }

def Request.paths : Request → List String
  | .run arguments => arguments.tokens :: arguments.identifiers.toList
  | _ => []

end Scl.CommandLine
