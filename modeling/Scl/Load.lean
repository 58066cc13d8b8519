import Scl.Folder
import Scl.Json.Token

/-! # Loading token files and name files

A token file is a JSON array of tokens, a name file a JSON array of names. Either all of a file is
loaded or none of it. A path that cannot be opened and a text that is not of the right form are
different errors; a folder can be opened, but its text cannot be read.
-/

namespace Scl

/-- Why a file was not loaded. -/
inductive LoadError where
  | unreadable (path : String) (cause : OpenError)
  | malformed (error : Json.Error)
  deriving DecidableEq, Repr

def LoadError.message : LoadError → String
  | .unreadable path cause => s!"cannot read '{path}': {cause.message}"
  | .malformed error => s!"invalid token JSON: {error.message}"

namespace Load

variable {α : Type}

/-- The items in bytes of a source. -/
def items (item : Json.Reader α) (source : Json.Source) (bytes : List UInt8) :
    Except LoadError (List α) :=
  (Json.readDocument item source bytes).mapError .malformed

def tokensOfText (text : String) : Except LoadError (List Token) :=
  items Json.Reader.token .text (Text.encodeUtf8 text)

def tokensOfStream (bytes : List UInt8) : Except LoadError (List Token) :=
  items Json.Reader.token .stream bytes

/-- The items in what was opened at a path. -/
def opened (item : Json.Reader α) (path : String) :
    Except OpenError Content → Except LoadError (List α)
  | .error cause => .error (.unreadable path cause)
  | .ok .folder => .error (.malformed ⟨.isFolder, none⟩)
  | .ok (.file bytes) => items item .stream bytes

def tokens (openPath : String → Except OpenError Content) (path : String) :
    Except LoadError (List Token) :=
  opened Json.Reader.token path (openPath path)

def names (openPath : String → Except OpenError Content) (path : String) :
    Except LoadError (List String) :=
  opened Json.Reader.text path (openPath path)

end Load

end Scl
