import Scl.Diagnostic

/-! # The line and the caret of an excerpt

The line of an excerpt is written word by word, and a blank goes in front of a word when something
stands on the line already. The column of the caret is the length of the line at the moment when the
word at the position is written. What is written later only adds to the line, behind a blank, so the
word stays where the caret points (`Excerpt.marks_around`). Nothing is read but the words in reach
of the position (`Excerpt.around_congr`).
-/

namespace Scl.Excerpt

/-- The word stands at the column of the excerpt, a blank in front of it unless it begins the line,
and a blank or the end of the line behind it unless it is empty. -/
structure Marks (excerpt : Excerpt) (word : String) : Prop where
  stands : word.toList <+: excerpt.line.toList.drop excerpt.column
  apart : 0 < excerpt.column → excerpt.line.toList[excerpt.column - 1]? = some ' '
  ends : word ≠ "" → ∀ next ∈ excerpt.line.toList[excerpt.column + word.length]?, next = ' '

/-- The caret stands one blank behind the line, or where the line would begin if it is empty. -/
def PointsPast (excerpt : Excerpt) : Prop :=
  excerpt.column = if excerpt.line = "" then 0 else excerpt.line.length + 1

section Write

variable {line word : String} {words : List String}

theorem ready_of_ne_empty (written : line ≠ "") : ready line = line.push ' ' := by
  rw [ready, if_neg]
  exact fun empty => written (String.isEmpty_iff.mp empty)

theorem length_ready (line : String) :
    (ready line).length = if line = "" then 0 else line.length + 1 := by
  split
  · next empty =>
    subst empty
    rfl
  · next written =>
    rw [ready_of_ne_empty written, String.length_push]

/-- The last character of a line made ready is a blank. -/
theorem getElem?_ready (written : 0 < (ready line).length) :
    (ready line).toList[(ready line).length - 1]? = some ' ' := by
  have some : line ≠ "" := by
    rintro rfl
    exact Nat.lt_irrefl 0 written
  rw [ready_of_ne_empty some, String.length_push, String.toList_push, Nat.add_sub_cancel,
    ← String.length_toList]
  exact List.getElem?_concat_length

/-- Writing adds to a line. If something stands there already, a blank is added first. -/
theorem exists_toList_write (line : String) (words : List String) :
    ∃ added, (write line words).toList = line.toList ++ added ∧
      (line ≠ "" → ∀ next ∈ added.head?, next = ' ') := by
  induction words generalizing line with
  | nil => exact ⟨[], (List.append_nil _).symm, nofun⟩
  | cons word words ih =>
    obtain ⟨added, same, _⟩ := ih (ready line ++ word)
    have same : (write line (word :: words)).toList =
        (ready line).toList ++ (word.toList ++ added) := by
      rw [← List.append_assoc, ← String.toList_append]
      exact same
    by_cases written : line = ""
    · subst written
      exact ⟨word.toList ++ added, same, fun some => (some rfl).elim⟩
    · refine ⟨' ' :: (word.toList ++ added), ?_, fun _ next first => (Option.some.inj first).symm⟩
      rw [same, ready_of_ne_empty written, String.toList_push, List.append_assoc,
        List.singleton_append]

theorem write_ne_empty_of_line (written : line ≠ "") : write line words ≠ "" := by
  obtain ⟨added, same, _⟩ := exists_toList_write line words
  intro empty
  rw [empty] at same
  obtain ⟨none, _⟩ := List.append_eq_nil_iff.mp same.symm
  exact written (String.toList_eq_nil_iff.mp none)

/-- A line on which a word was written that is not empty is not empty. -/
theorem write_ne_empty (member : word ∈ words) (filled : word ≠ "") : write line words ≠ "" := by
  induction words generalizing line with
  | nil => cases member
  | cons first words ih =>
    rcases List.mem_cons.mp member with rfl | later
    · have written : ready line ++ word ≠ "" := fun empty =>
        filled (String.append_eq_empty_iff.mp empty).2
      change write (ready line ++ word) words ≠ ""
      exact write_ne_empty_of_line written
    · exact ih later

/-- A word stands where the line ended when it was made ready for the word, whatever is written
later. -/
theorem marks_write (line word : String) (later : List String) :
    Marks ⟨write line (word :: later), (ready line).length⟩ word := by
  obtain ⟨added, same, parted⟩ := exists_toList_write (ready line ++ word) later
  have shown : (write line (word :: later)).toList =
      (ready line).toList ++ (word.toList ++ added) := by
    rw [← List.append_assoc, ← String.toList_append]
    exact same
  have width : (ready line).length = (ready line).toList.length := String.length_toList.symm
  constructor
  case stands =>
    dsimp only
    rw [shown, width, List.drop_left]
    exact List.prefix_append ..
  case apart =>
    dsimp only
    intro written
    rw [shown, List.getElem?_append_left (by omega), getElem?_ready written]
  case ends =>
    dsimp only
    intro filled next behind
    have some : ready line ++ word ≠ "" := fun empty =>
      filled (String.append_eq_empty_iff.mp empty).2
    rw [shown, width, ← String.length_toList, List.getElem?_append_right (Nat.le_add_right ..),
      Nat.add_sub_cancel_left, List.getElem?_append_right (Nat.le_refl _), Nat.sub_self,
      ← List.head?_eq_getElem?] at behind
    exact parted some next behind

end Write

section Around

variable {tokens others : List Token} {position : Nat} {token : Token}

/-- The words in reach before a position. -/
def wordsBefore (tokens : List Token) (position : Nat) : List String :=
  ((tokens.map (·.value)).take position).drop (position - reach)

def wordsFrom (tokens : List Token) (position : Nat) : List String :=
  ((tokens.map (·.value)).drop position).take (reach + 1)

theorem around_eq (tokens : List Token) (position : Nat) :
    around tokens position =
      { line := write (write "" (wordsBefore tokens position)) (wordsFrom tokens position)
        column := (ready (write "" (wordsBefore tokens position))).length } := rfl

theorem wordsFrom_of_getElem? (here : tokens[position]? = some token) :
    ∃ later, wordsFrom tokens position = token.value :: later := by
  obtain ⟨inside, rfl⟩ := List.getElem?_eq_some_iff.mp here
  have inside : position < (tokens.map (·.value)).length := by rwa [List.length_map]
  refine ⟨((tokens.map (·.value)).drop (position + 1)).take reach, ?_⟩
  rw [wordsFrom, List.drop_eq_getElem_cons inside, List.take_succ_cons, List.getElem_map]

theorem wordsFrom_of_length_le (past : tokens.length ≤ position) :
    wordsFrom tokens position = [] := by
  rw [wordsFrom, List.drop_of_length_le (by rwa [List.length_map]), List.take_nil]

/-- The word of a token that stands before the position and in reach of it. -/
theorem mem_wordsBefore {index : Nat} (here : tokens[index]? = some token)
    (before : index < position) (near : position ≤ index + reach) :
    token.value ∈ wordsBefore tokens position := by
  refine List.mem_iff_getElem?.mpr ⟨index - (position - reach), ?_⟩
  have place : position - reach + (index - (position - reach)) = index := by omega
  rw [wordsBefore, List.getElem?_drop, place, List.getElem?_take_of_lt before, List.getElem?_map,
    here, Option.map_some]

theorem line_around_ne_empty (member : token.value ∈ wordsBefore tokens position)
    (filled : token.value ≠ "") : (around tokens position).line ≠ "" :=
  write_ne_empty_of_line (write_ne_empty member filled)

/-- At a token, the caret stands below the first character of its word. -/
theorem marks_around (here : tokens[position]? = some token) :
    (around tokens position).Marks token.value := by
  obtain ⟨later, from_here⟩ := wordsFrom_of_getElem? here
  rw [around_eq, from_here]
  exact marks_write ..

/-- Past the last token, nothing is written after the caret was placed. -/
theorem pointsPast_around (past : tokens.length ≤ position) :
    (around tokens position).PointsPast := by
  rw [around_eq, wordsFrom_of_length_le past]
  exact length_ready _

/-- An excerpt shows nothing but the words in reach of the position. -/
theorem around_congr
    (agree : ∀ index, position ≤ index + reach → index ≤ position + reach →
      tokens[index]?.map (·.value) = others[index]?.map (·.value)) :
    around tokens position = around others position := by
  have before : wordsBefore tokens position = wordsBefore others position := by
    refine List.ext_getElem? fun index => ?_
    rw [wordsBefore, wordsBefore, List.getElem?_drop, List.getElem?_drop, List.getElem?_take,
      List.getElem?_take]
    split
    · next inside =>
      rw [List.getElem?_map, List.getElem?_map]
      exact agree _ (by omega) (by omega)
    · rfl
  have following : wordsFrom tokens position = wordsFrom others position := by
    refine List.ext_getElem? fun index => ?_
    rw [wordsFrom, wordsFrom, List.getElem?_take, List.getElem?_take]
    split
    · next inside =>
      rw [List.getElem?_drop, List.getElem?_drop, List.getElem?_map, List.getElem?_map]
      exact agree _ (by omega) (by omega)
    · rfl
  rw [around_eq, around_eq, before, following]

end Around

end Scl.Excerpt
