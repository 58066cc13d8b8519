/-! # Arguments

The arguments of the command: a path of tokens, and before or after it the path of a name file and
the wish for a longer log. They are read from left to right. The first thing that is wrong, or the
first wish for help or for the version, decides the outcome, and what follows it is not read.

A path is looked at only when the argument after it makes sense, or at the end. So an argument that
makes no sense is reported before what is wrong with the path in front of it.
-/

namespace Scl.CommandLine

/-- What can be given by name. -/
inductive Switch where
  | identifiers
  | verbose
  | help
  | version
  deriving DecidableEq, Repr

namespace Switch

def all : List Switch :=
  [.identifiers, .verbose, .help, .version]

/-- The name of an option, which follows two hyphens. -/
def name : Switch → String
  | .identifiers => "identifiers"
  | .verbose => "verbose"
  | .help => "help"
  | .version => "version"

/-- The letter of an option, which follows one hyphen. -/
def letter : Switch → Char
  | .identifiers => 'i'
  | .verbose => 'v'
  | .help => 'h'
  | .version => 'V'

def ofName? (name : String) : Option Switch :=
  all.find? (·.name == name)

def ofLetter? (letter : Char) : Option Switch :=
  all.find? (·.letter == letter)

end Switch

/-- What can be given on the command line. -/
inductive Parameter where
  | tokens
  | named (switch : Switch)
  deriving DecidableEq, Repr

/-- Arguments that make sense. -/
structure Arguments where
  /-- The path of the token file. -/
  tokens : String
  /-- The path of the name file. -/
  identifiers : Option String
  /-- Whether every statement is logged. -/
  verbose : Bool
  deriving DecidableEq, Repr

/-- What is wrong with arguments. Some messages depend on what was given before. -/
inductive Misuse where
  | missingTokens (given : List Parameter)
  | missingValue (parameter : Parameter)
  | unknownName (name : String) (given : List Parameter)
  | unknownLetter (letter : Char)
  | extraArgument (argument : String)
  | repeated (switch : Switch)
  | unwantedValue (value : String) (switch : Switch) (given : List Parameter)
  deriving DecidableEq, Repr

/-- What the arguments ask for. -/
inductive Request where
  | run (arguments : Arguments)
  | help
  | version
  | misuse (misuse : Misuse)
  deriving DecidableEq, Repr

/-- A path that was given and not yet looked at. -/
inductive Pending where
  | tokens (path : String)
  /-- The path of the name file, which is still missing behind a bare option. -/
  | identifiers (path : Option String)
  deriving DecidableEq, Repr

/-- The arguments read so far. -/
structure Reading where
  tokens : Option String := none
  identifiers : Option String := none
  verbose : Bool := false
  /-- The parameters in the order in which they were given, without a pending one. -/
  given : List Parameter := []
  pending : Option Pending := none
  deriving DecidableEq, Repr

/-- What follows from an argument: reading goes on, or the request is decided. -/
abbrev Step := Except Request Reading

namespace Reading

/-- Stops at something wrong. -/
def reject (misuse : Misuse) : Step :=
  .error (.misuse misuse)

/-- The parameters that were given, with a pending one as far as it can be counted. A second name
file leaves none. -/
def noticed (reading : Reading) : List Parameter :=
  match reading.pending with
  | none | some (.identifiers none) => reading.given
  | some (.tokens _) => reading.given ++ [.tokens]
  | some (.identifiers (some _)) =>
    if reading.identifiers.isSome then reading.given.filter (· ≠ .named .identifiers)
    else reading.given ++ [.named .identifiers]

/-- Looks at the pending path. -/
def settle (reading : Reading) : Step :=
  match reading.pending with
  | none => .ok reading
  | some (.tokens path) =>
    if path = "" then reject (.missingValue .tokens)
    else .ok { reading with tokens := some path, given := reading.noticed, pending := none }
  | some (.identifiers none) => reject (.missingValue (.named .identifiers))
  | some (.identifiers (some path)) =>
    if reading.identifiers.isSome then reject (.repeated .identifiers)
    else if path = "" then reject (.missingValue (.named .identifiers))
    else .ok { reading with identifiers := some path, given := reading.noticed, pending := none }

def hasTokens (reading : Reading) : Bool :=
  match reading.pending with
  | some (.tokens _) => true
  | _ => reading.tokens.isSome

/-- Takes an argument that is neither an option nor the value of one. -/
def positional (reading : Reading) (argument : String) : Step :=
  if reading.hasTokens then reject (.extraArgument argument)
  else do
    let reading ← reading.settle
    return { reading with pending := some (.tokens argument) }

def option (reading : Reading) (switch : Switch) : Step := do
  let reading ← reading.settle
  match switch with
  | .identifiers => return { reading with pending := some (.identifiers none) }
  | .verbose =>
    if reading.verbose then reject (.repeated .verbose)
    else return { reading with verbose := true, given := reading.given ++ [.named .verbose] }
  | .help => throw .help
  | .version => throw .version

/-- Takes the name file from behind its option, which is looked at at once. -/
def attached (reading : Reading) (path : String) : Step := do
  let reading ← reading.settle
  { reading with pending := some (.identifiers (some path)) }.settle

/-- Takes an option by its name, with the value behind its equals sign if there is one. -/
def named (reading : Reading) (name : String) (value : Option String) : Step :=
  match Switch.ofName? name, value with
  | some switch, none => reading.option switch
  | some .identifiers, some value => reading.attached value
  | some switch, some value => reject (.unwantedValue value switch reading.given)
  | none, _ => reject (.unknownName name reading.noticed)

/-- Takes options by their letters. The value of a letter that has one is all that follows it. -/
def letters (reading : Reading) : List Char → Step
  | [] => .ok reading
  | letter :: others =>
    match Switch.ofLetter? letter, others with
    | none, _ => reject (.unknownLetter letter)
    | some .identifiers, [] => reading.option .identifiers
    | some .identifiers, '=' :: value => reading.attached (String.ofList value)
    | some .identifiers, value => reading.attached (String.ofList value)
    | some switch, others => do
      let reading ← reading.option switch
      reading.letters others

/-- Takes an argument. Two hyphens start a name and one hyphen starts letters; a hyphen alone is no
option. What is no option is the value of the option before it, if that still lacks one. -/
def argument (reading : Reading) (argument : String) : Step :=
  match argument.toList with
  | '-' :: '-' :: option =>
    let name := String.ofList (option.takeWhile (· ≠ '='))
    match option.dropWhile (· ≠ '=') with
    | _ :: value => reading.named name (some (String.ofList value))
    | [] => reading.named name none
  | '-' :: letter :: option => reading.letters (letter :: option)
  | _ =>
    if reading.pending = some (.identifiers none) then
      .ok { reading with pending := some (.identifiers (some argument)) }
    else reading.positional argument

/-- Takes all arguments. Two hyphens alone end the options. -/
def arguments (reading : Reading) : List String → Step
  | [] => .ok reading
  | argument :: others =>
    if argument = "--" then others.foldlM positional reading
    else do
      let reading ← reading.argument argument
      reading.arguments others

/-- What was read in all, if nothing is missing. -/
def finish (reading : Reading) : Except Request Arguments := do
  let reading ← reading.settle
  match reading.tokens with
  | some tokens => return ⟨tokens, reading.identifiers, reading.verbose⟩
  | none => throw (.misuse (.missingTokens reading.given))

end Reading

/-- What arguments ask for. -/
def Request.ofArguments (arguments : List String) : Request :=
  match Reading.arguments {} arguments >>= Reading.finish with
  | .ok arguments => .run arguments
  | .error request => request

end Scl.CommandLine
