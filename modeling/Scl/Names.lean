/-! # Sets of names

The names declared in a file form a set: neither their order nor a repetition means anything. A set
is kept in ascending order of its names, so equal sets are equal values.
-/

namespace Scl

/-- A list of names with one more, put in its place unless it is there already. -/
def insertName (name : String) : List String → List String
  | [] => [name]
  | other :: others =>
    if name < other then name :: other :: others
    else if name = other then other :: others
    else other :: insertName name others

/-- The distinct names of a list, in ascending order. -/
def distinctNames (names : List String) : List String :=
  names.foldr insertName []

theorem mem_insertName {name wanted : String} {names : List String} :
    wanted ∈ insertName name names ↔ wanted = name ∨ wanted ∈ names := by
  induction names with
  | nil => simp [insertName]
  | cons other others ih =>
    rw [insertName]
    split
    · simp
    · split
      · next same => subst same; simp
      · simp only [List.mem_cons, ih]
        exact or_left_comm

theorem mem_distinctNames {wanted : String} {names : List String} :
    wanted ∈ distinctNames names ↔ wanted ∈ names := by
  induction names with
  | nil => simp [distinctNames]
  | cons name names ih =>
    rw [distinctNames, List.foldr_cons, mem_insertName, List.mem_cons]
    exact or_congr_right ih

end Scl
