import Scl.Text.Utf8

/-! # Folders and paths

A folder of files without folders in it, and what a path names there. A path is followed part by
part: a file has no parts, a dot stays, two dots leave the folder, and outside of it no name is
known.
-/

namespace Scl

/-- What a path can name. -/
inductive Content where
  | file (bytes : List UInt8)
  | folder
  deriving DecidableEq

/-- Why nothing can be opened at a path. -/
inductive OpenError where
  | notFound
  | notAFolder
  | nameTooLong
  /-- The path holds the character that ends a path for the system. -/
  | holdsNul
  /-- Another reason, in the words of the system. -/
  | other (description : String)
  deriving DecidableEq, Repr

def OpenError.message : OpenError → String
  | .notFound => "No such file or directory (os error 2)"
  | .notAFolder => "Not a directory (os error 20)"
  | .nameTooLong => "File name too long (os error 36)"
  | .holdsNul => "file name contained an unexpected NUL byte"
  | .other description => description

/-- Files by name. -/
structure Folder where
  files : List (String × List UInt8)

namespace Folder

/-- The largest number of bytes of a name. -/
def longestName : Nat := 255

/-- The number of bytes that a path has to stay below. -/
def pathLimit : Nat := 4096

/-- Where following a path has come to. -/
inductive Spot where
  /-- The folder itself. -/
  | inside
  /-- A folder around it. -/
  | outside
  /-- A file of the folder. -/
  | file (bytes : List UInt8)
  deriving DecidableEq

/-- One step from a spot, by one part of a path. -/
def follow (folder : Folder) (spot : Spot) (part : String) : Except OpenError Spot :=
  match spot with
  | .file _ => .error .notAFolder
  | .outside =>
    if longestName < part.utf8ByteSize then .error .nameTooLong
    else if part = "" ∨ part = "." ∨ part = ".." then .ok .outside
    else .error .notFound
  | .inside =>
    if longestName < part.utf8ByteSize then .error .nameTooLong
    else if part = "" ∨ part = "." then .ok .inside
    else if part = ".." then .ok .outside
    else
      match folder.files.lookup part with
      | some bytes => .ok (.file bytes)
      | none => .error .notFound

def parts (path : String) : List String :=
  path.splitOn "/"

def openPath (folder : Folder) (path : String) : Except OpenError Content := do
  if '\x00' ∈ path.toList then throw .holdsNul
  if path = "" then throw .notFound
  if pathLimit ≤ path.utf8ByteSize then throw .nameTooLong
  let start := if path.startsWith "/" then Spot.outside else Spot.inside
  match ← (parts path).foldlM folder.follow start with
  | .file bytes => return .file bytes
  | .inside | .outside => return .folder

end Folder

end Scl
