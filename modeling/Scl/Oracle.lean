/-! # Declared names

Which names a program has declared is known outside the parser. An oracle answers for one name at a
time; it may be a table of names or any other test.
-/

namespace Scl

/-- Whether a name is declared. -/
abbrev Oracle := String → Bool

namespace Oracle

/-- Exactly the listed names are declared. -/
def ofNames (names : List String) : Oracle :=
  names.contains

/-- Every name is declared, or none. -/
def constant (answer : Bool) : Oracle :=
  fun _ => answer

/-- The names that begin with a text are declared. -/
def beginningWith (start : String) : Oracle :=
  fun name => start.toList.isPrefixOf name.toList

theorem ofNames_eq_true_iff {names : List String} {name : String} :
    ofNames names name = true ↔ name ∈ names := by
  simp [ofNames]

end Oracle

end Scl
