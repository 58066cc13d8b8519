import Scl.Proofs.Outcome

/-! # Parsing one program after another

Between two statements nothing is carried over but the number of tokens passed. So a program
followed by other tokens is parsed as the two are by themselves: the nodes stand side by side, and
the error and the warnings of the second part are those that it has alone, with their positions
moved past the first.
-/

namespace Scl

/-- The warning when that many tokens more stand before its name. -/
def Warning.shift (count : Nat) (warning : Warning) : Warning :=
  { warning with position := warning.position + count }

/-- The error when that many tokens more stand before its slot. -/
def ParseError.shift (count : Nat) (error : ParseError) : ParseError :=
  { error with position := error.position + count }

section Shift

variable (oracle : Option Oracle) (position count : Nat)

theorem Slot.undeclared_add (slot : Slot) (token : Token) :
    slot.undeclared oracle (position + count) token =
      (slot.undeclared oracle position token).map (Warning.shift count) := by
  unfold undeclared
  split <;> rfl

theorem Slot.undeclaredAll_add (slots : List Slot) (tokens : List Token) :
    undeclaredAll oracle (position + count) slots tokens =
      (undeclaredAll oracle position slots tokens).map (Warning.shift count) := by
  induction slots generalizing position tokens with
  | nil => rfl
  | cons slot slots ih =>
    cases tokens with
    | nil => rfl
    | cons token tokens =>
      have later := ih (position + 1) tokens
      rw [Nat.add_right_comm] at later
      rw [undeclaredAll, undeclaredAll, List.map_append, slot.undeclared_add, later]

theorem Sentence.warnings_add (sentences : List Sentence) :
    warnings oracle (position + count) sentences =
      (warnings oracle position sentences).map (Warning.shift count) := by
  induction sentences generalizing position with
  | nil => rfl
  | cons sentence sentences ih =>
    have inside := Slot.undeclaredAll_add oracle (position + 1) count sentence.first.slots
      sentence.operands
    have later := ih (position + sentence.span.length)
    rw [Nat.add_right_comm] at inside later
    rw [warnings, warnings, List.map_append, inside, later]

theorem Fragment.warnings_add (fragment : Fragment) :
    fragment.warnings oracle (position + count) =
      (fragment.warnings oracle position).map (Warning.shift count) := by
  have inside := Slot.undeclaredAll_add oracle (position + 1) count fragment.before fragment.taken
  rwa [Nat.add_right_comm] at inside

theorem Fragment.error_add (fragment : Fragment) :
    fragment.error (position + count) = (fragment.error position).shift count := by
  simp only [error, ParseError.shift, Nat.add_right_comm]

end Shift

section Sentences

open Sentence

variable (sentences : List Sentence) (second : List Token) (oracle : Option Oracle)

/-- Sentences add their nodes before a tree, and move an error past them. -/
theorem parse_spans_append :
    parse (spans sentences ++ second) oracle =
      match parse second oracle with
      | .ok rest => .ok (.node "Program" (sentences.map node ++ rest.children))
      | .error error => .error (error.shift (spans sentences).length) := by
  rcases exists_cut second with ⟨others, rfl⟩ | ⟨others, fragment, rfl⟩
  · rw [← spans_append, parse_of_sentences, parse_of_sentences, List.map_append]
    rfl
  · rw [← List.append_assoc, ← spans_append, parse_of_fragment, parse_of_fragment, spans_append,
      List.length_append, Nat.add_comm, fragment.error_add]

theorem parseWarnings_spans_append :
    parseWarnings (spans sentences ++ second) oracle =
      parseWarnings (spans sentences) oracle ++
        (parseWarnings second oracle).map (Warning.shift (spans sentences).length) := by
  rw [parseWarnings_of_sentences]
  rcases exists_cut second with ⟨others, rfl⟩ | ⟨others, fragment, rfl⟩
  · rw [← spans_append, parseWarnings_of_sentences, parseWarnings_of_sentences, warnings_append,
      warnings_add]
  · rw [← List.append_assoc, ← spans_append, parseWarnings_of_fragment, parseWarnings_of_fragment,
      warnings_append, warnings_add, spans_append, List.length_append,
      Nat.add_comm (spans sentences).length, fragment.warnings_add, List.map_append,
      List.append_assoc]

end Sentences

/-- A program does not change how the tokens after it are parsed, except for where they stand. -/
theorem parse_append {first : List Token} {oracle : Option Oracle} {tree : Tree}
    (success : parse first oracle = .ok tree) (second : List Token) :
    ((∃ whole, parse (first ++ second) oracle = .ok whole) ↔
      ∃ rest, parse second oracle = .ok rest) ∧
    (∀ rest, parse second oracle = .ok rest →
      parse (first ++ second) oracle = .ok (.node "Program" (tree.children ++ rest.children))) ∧
    (∀ error, parse second oracle = .error error →
      parse (first ++ second) oracle = .error (error.shift first.length)) ∧
    parseWarnings (first ++ second) oracle =
      parseWarnings first oracle ++
        (parseWarnings second oracle).map (Warning.shift first.length) := by
  rcases exists_cut first with ⟨sentences, rfl⟩ | ⟨sentences, fragment, rfl⟩
  · rw [parse_of_sentences] at success
    obtain rfl := Except.ok.inj success
    have whole := parse_spans_append sentences second oracle
    refine ⟨?_, ?_, ?_, parseWarnings_spans_append sentences second oracle⟩
    · rw [whole]
      cases parse second oracle with
      | ok rest => exact iff_of_true ⟨_, rfl⟩ ⟨rest, rfl⟩
      | error error => simp
    · intro rest parsed
      rw [whole, parsed]
      rfl
    · intro error failed
      rw [whole, failed]
  · rw [parse_of_fragment] at success
    contradiction

/-- A `display` that ends too early, after an `exit`. -/
theorem parse_append_exit_display :
    parse [⟨.keyword, "exit"⟩, ⟨.keyword, "display"⟩] none =
      .error ⟨2, none, "Expected identifier after 'display'."⟩ := by
  let fragment : Fragment :=
    { first := ⟨.keyword, "display"⟩
      before := []
      slot := ⟨.declared, "Expected identifier after 'display'."⟩
      others := []
      slots_eq := by decide
      taken := []
      filled := .nil
      rest := []
      unmet := by simp }
  have success : parse [⟨.keyword, "exit"⟩] none =
      .ok (.node "Program" [.withLeaves "ExitStatement" ["exit"]]) :=
    parse_of_sentences [⟨⟨.keyword, "exit"⟩, [], .nil⟩] none
  have failure : parse [⟨.keyword, "display"⟩] none =
      .error ⟨1, none, "Expected identifier after 'display'."⟩ :=
    parse_of_fragment [] fragment none
  obtain ⟨_, _, moved, _⟩ := parse_append success [⟨.keyword, "display"⟩]
  exact moved _ failure

end Scl
