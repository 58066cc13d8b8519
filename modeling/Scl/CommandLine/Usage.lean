import Scl.CommandLine.Arguments
import Scl.Text.Similarity
import Scl.Text.Terminal

/-! # What the command says about itself

The help text, the version, and the messages for arguments that make no sense.
-/

namespace Scl.CommandLine

def helpText : String :=
  "Parse an SCL token file and print its parse tree\n\n" ++
  "Usage: sclparse [OPTIONS] <TOKENS>\n\n" ++
  "Arguments:\n" ++
  "  <TOKENS>  JSON token file written by the tokenizer\n\n" ++
  "Options:\n" ++
  "  -i, --identifiers <IDENTIFIERS>  " ++
  "JSON array of declared identifiers, checked by `display`\n" ++
  "  -v, --verbose                    Log every dispatched statement\n" ++
  "  -h, --help                       Print help\n" ++
  "  -V, --version                    Print version\n"

def versionText : String :=
  "sclparse 0.1.0\n"

def Switch.usage : Switch → String
  | .identifiers => "--identifiers <IDENTIFIERS>"
  | switch => "--" ++ switch.name

def Parameter.usage : Parameter → String
  | .tokens => "<TOKENS>"
  | .named switch => switch.usage

/-- The usage line that names these parts. -/
def usageLine (parts : List String) : String :=
  "\n\nUsage: " ++ " ".intercalate ("sclparse" :: parts)

def openUsage : String :=
  usageLine ["[OPTIONS]", Parameter.tokens.usage]

def usageOf (given : List Parameter) : String :=
  usageLine ((given.filter (· ≠ .tokens)).map Parameter.usage ++ [Parameter.tokens.usage])

/-- The usage line with the options that were given, which leaves all open if nothing was. -/
def usageSoFar (given : List Parameter) : String :=
  if given.isEmpty then openUsage else usageOf given

/-- The parameters of a run, of which a usage line may offer the choice. -/
def choices : List Parameter :=
  [.tokens, .named .identifiers, .named .verbose]

/-- How the choice of the parameters of a run is written. A path stands there by its bare name. -/
def choiceUsage : String :=
  let written (parameter : Parameter) : String :=
    if parameter = .tokens then "TOKENS" else parameter.usage
  "<" ++ "|".intercalate (choices.map written) ++ ">"

/-- The usage line of one option. If something was given before, it offers the choice of all. -/
def usageWith (switch : Switch) (given : List Parameter) : String :=
  if given.isEmpty then usageOf [.named switch]
  else if .named switch ∈ choices then usageLine [choiceUsage]
  else usageLine [switch.usage, choiceUsage]

/-- What was given, between single quotes. -/
def cited (text : String) : String :=
  "'" ++ Text.withoutCommands text ++ "'"

def unexpected (argument : String) : String :=
  "unexpected argument " ++ cited argument ++ " found"

/-- The advice for a path that looks like an option. -/
def pathTip (argument : String) : String :=
  "\n\n  tip: to pass " ++ cited argument ++ " as a value, use " ++ cited ("-- " ++ argument)

/-- The advice for a name that looks like another. -/
def nameTip (similar : Switch) : String :=
  "\n\n  tip: a similar argument exists: " ++ cited ("--" ++ similar.name)

/-- The option whose name is most similar to another name, if one is similar enough. -/
def Switch.similar? (name : String) : Option Switch :=
  Text.mostSimilar? Switch.name name all

/-- The advice and the usage line for a name that no option has. A similar option counts as if it
was given. -/
def adviceFor (name : String) (given : List Parameter) : String :=
  match Switch.similar? name with
  | none => pathTip ("--" ++ name) ++ usageSoFar given
  | some similar =>
    let meant := .named similar
    nameTip similar ++ usageOf (if meant ∈ given then given else given ++ [meant])

/-- What is wrong, in words, and how to use the command. -/
def Misuse.explanation : Misuse → String
  | .missingTokens given =>
    "the following required arguments were not provided:\n  <TOKENS>" ++ usageOf given
  | .missingValue parameter =>
    s!"a value is required for '{parameter.usage}' but none was supplied"
  | .unknownName name given => unexpected ("--" ++ name) ++ adviceFor name given
  | .unknownLetter letter =>
    let argument := String.ofList ['-', letter]
    unexpected argument ++ pathTip argument ++ openUsage
  | .extraArgument argument => unexpected argument ++ openUsage
  | .repeated switch =>
    s!"the argument '{switch.usage}' cannot be used multiple times" ++ openUsage
  | .unwantedValue value switch given =>
    "unexpected value " ++ cited value ++ " for " ++ cited ("--" ++ switch.name) ++
      " found; no more were expected" ++ usageWith switch given

def Misuse.message (misuse : Misuse) : String :=
  "error: " ++ misuse.explanation ++ "\n\nFor more information, try '--help'.\n"

end Scl.CommandLine
