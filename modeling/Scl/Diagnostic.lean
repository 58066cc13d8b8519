import Scl.ParseError
import Scl.Token
import Scl.Warning

/-! # Diagnostics

A diagnostic shows a place in a program. The place is a token position, not a position in a text,
so the line shown is made of the tokens near it: up to four before and four after. The caret
stands below the first character of the token at the position, or where the next token would
start if the program ends before it. It gets there by padding, which goes no further than to a
fixed column: a diagnostic whose caret belongs to the right of it has a text but is never written.
-/

namespace Scl

/-- A program as diagnostics show it: the name of its file and its tokens. -/
structure Listing where
  file : String
  tokens : List Token

/-- The tokens near a position, as one line, and the column of the caret below it. -/
structure Excerpt where
  line : String
  column : Nat
  deriving DecidableEq, Repr

namespace Excerpt

/-- The number of tokens shown on each side. -/
def reach : Nat := 4

/-- The line made ready for one more word: a blank parts it from what stands there already. -/
def ready (line : String) : String :=
  if line.isEmpty then line else line.push ' '

/-- The line with more words at its end. -/
def write (line : String) (words : List String) : String :=
  words.foldl (fun line word => ready line ++ word) line

/-- The excerpt around a position, which may lie past the last token. -/
def around (tokens : List Token) (position : Nat) : Excerpt :=
  let words := tokens.map (·.value)
  let first := position - reach
  let before := write "" ((words.take position).drop first)
  { line := write before ((words.drop position).take (reach + 1))
    column := (ready before).length }

/-- The last column that padding reaches. -/
def widest : Nat := 65535

/-- The caret can be set. -/
def Fits (excerpt : Excerpt) : Prop :=
  excerpt.column ≤ widest

instance (excerpt : Excerpt) : Decidable excerpt.Fits :=
  inferInstanceAs (Decidable (_ ≤ _))

end Excerpt

namespace Listing

/-- The text of a diagnostic with a heading, a sentence, a position and what is written beside the
caret. -/
def render (listing : Listing) (heading sentence : String) (position : Nat)
    (note : Option String) : String :=
  let excerpt := Excerpt.around listing.tokens position
  let indent := String.ofList (List.replicate excerpt.column ' ')
  let beside := match note with
    | some text => " " ++ text
    | none => ""
  s!"{heading}: {sentence}\n  --> {listing.file}: token {position}\n   |\n" ++
    s!"   | {excerpt.line}\n   | {indent}^{beside}\n"

/-- The diagnostic as it is written, if its caret can be set. -/
def render? (listing : Listing) (heading sentence : String) (position : Nat)
    (note : Option String) : Option String :=
  if (Excerpt.around listing.tokens position).Fits then
    some (listing.render heading sentence position note)
  else none

def noteOf (error : ParseError) : String :=
  match error.found with
  | some found => s!"found '{found}'"
  | none => "unexpected end of input"

def renderError (listing : Listing) (error : ParseError) : String :=
  listing.render s!"error[{error.code}]" error.expected error.position (some (noteOf error))

def renderWarning (listing : Listing) (warning : Warning) : String :=
  listing.render "warning" warning.message warning.position none

def renderError? (listing : Listing) (error : ParseError) : Option String :=
  listing.render? s!"error[{error.code}]" error.expected error.position (some (noteOf error))

def renderWarning? (listing : Listing) (warning : Warning) : Option String :=
  listing.render? "warning" warning.message warning.position none

section Written

variable {listing : Listing} {error : ParseError} {warning : Warning}

theorem renderError?_of_fits (fits : (Excerpt.around listing.tokens error.position).Fits) :
    listing.renderError? error = some (listing.renderError error) :=
  if_pos fits

theorem renderError?_of_not_fits (wide : ¬ (Excerpt.around listing.tokens error.position).Fits) :
    listing.renderError? error = none :=
  if_neg wide

theorem renderWarning?_of_fits (fits : (Excerpt.around listing.tokens warning.position).Fits) :
    listing.renderWarning? warning = some (listing.renderWarning warning) :=
  if_pos fits

theorem renderWarning?_of_not_fits
    (wide : ¬ (Excerpt.around listing.tokens warning.position).Fits) :
    listing.renderWarning? warning = none :=
  if_neg wide

end Written

end Listing

end Scl
