import Scl.Proofs.Excerpt
import Scl.Proofs.Outcome
import Scl.Proofs.Session.Quoting

/-! # The caret marks the offending token

A diagnostic is five lines. The last two are the excerpt around its position and the caret below it,
behind gutters of one width, so what is known of the excerpt can be seen in the text. The position
is that of a token which the diagnostic is about: a warning quotes the token at its position, and so
does a parse error, unless the tokens end there. In this case the caret stands one blank behind the
last word shown, and there is such a word: no statement is so long that its keyword is out of reach
of a slot.
-/

namespace Scl

namespace Handler

theorem lookup_empty : lookup "" = none := by
  decide

/-- No statement has more slots than an excerpt shows words before its position. -/
theorem length_slots_le (handler : Option Handler) : (slots handler).length ≤ Excerpt.reach := by
  rcases handler with _ | handler
  · exact Nat.zero_le _
  · cases handler with
    | rule rule => cases rule <;> decide
    | placeholder word => exact Nat.zero_le _

end Handler

namespace Fragment

variable (fragment : Fragment)

/-- A fragment starts with a keyword, which is not empty. -/
theorem value_first_ne_empty : fragment.first.value ≠ "" := by
  intro empty
  have slots : fragment.first.slots = [] := by
    rw [Token.slots, empty, Handler.lookup_empty, Handler.slots]
  rw [fragment.slots_eq] at slots
  cases (List.append_eq_nil_iff.mp slots).2

/-- The keyword is in reach of every slot. -/
theorem width_le_reach : fragment.width ≤ Excerpt.reach := by
  have slots := Handler.length_slots_le (Handler.lookup fragment.first.value)
  change fragment.first.slots.length ≤ _ at slots
  rw [fragment.slots_eq, List.length_append, List.length_cons] at slots
  have taken := fragment.filled.length_eq
  rw [width]
  omega

theorem getElem?_first (earlier : List Token) :
    (earlier ++ fragment.tokens)[earlier.length]? = some fragment.first := by
  rw [List.getElem?_append_right (Nat.le_refl _), Nat.sub_self]
  rfl

/-- Something stands on the line shown for the error of a fragment. -/
theorem line_around_ne_empty (earlier : List Token) :
    (Excerpt.around (earlier ++ fragment.tokens) (earlier.length + fragment.width)).line ≠ "" := by
  have here := fragment.getElem?_first earlier
  have before : earlier.length < earlier.length + fragment.width := by
    rw [width]
    omega
  have near := Nat.add_le_add_left fragment.width_le_reach earlier.length
  exact Excerpt.line_around_ne_empty (Excerpt.mem_wordsBefore here before near)
    fragment.value_first_ne_empty

end Fragment

namespace Listing

/-- The lines of a diagnostic: what it says, the place, an empty gutter, the words near the place,
and the caret below them with what stands beside it. -/
def page (listing : Listing) (heading sentence : String) (position : Nat) (beside : String) :
    List String :=
  let excerpt := Excerpt.around listing.tokens position
  let indent := String.ofList (List.replicate excerpt.column ' ')
  [heading ++ ": " ++ sentence, s!"  --> {listing.file}: token {position}", "   |",
    "   | " ++ excerpt.line, "   | " ++ indent ++ "^" ++ beside]

theorem render_eq_page (listing : Listing) (heading sentence : String) (position : Nat)
    (note : Option String) :
    listing.render heading sentence position note =
      String.join ((listing.page heading sentence position (note.elim "" (" " ++ ·))).map
        (· ++ "\n")) := by
  refine String.toList_injective ?_
  cases note with
  | none => simp [render, page, toString]
  | some text => simp [render, page, toString]

end Listing

section Parse

variable {tokens : List Token} {oracle : Option Oracle} {error : ParseError}

/-- An error of a parse quotes the token at its position. If there is none, the tokens end there,
and something is shown on the line of the excerpt. -/
theorem quotes_of_parse_error (failed : parse tokens oracle = .error error) :
    (∃ token, tokens[error.position]? = some token ∧ error.found = some token.value) ∨
      (error.found = none ∧ error.position = tokens.length ∧
        (Excerpt.around tokens error.position).line ≠ "") := by
  rcases exists_cut tokens with ⟨sentences, rfl⟩ | ⟨sentences, fragment, rfl⟩
  · rw [parse_of_sentences] at failed
    cases failed
  · rw [parse_of_fragment] at failed
    cases failed
    have here := fragment.getElem?_append_tokens (Sentence.spans sentences)
    have total := fragment.length_tokens
    cases rest : fragment.rest with
    | nil =>
      refine .inr ⟨?_, ?_, fragment.line_around_ne_empty _⟩
      · rw [Fragment.found_error, rest, List.head?_nil, Option.map_none]
      · rw [Fragment.position_error, List.length_append, total, rest, List.length_nil, Nat.add_zero]
    | cons token others =>
      rw [rest, List.head?_cons] at here
      refine .inl ⟨token, here, ?_⟩
      rw [Fragment.found_error, rest, List.head?_cons, Option.map_some]

end Parse

/-- What the excerpt around a position shows. -/
structure Excerpt.Shows (tokens : List Token) (position : Nat) : Prop where
  /-- The caret stands below the word at the position. -/
  marks : ∀ token, tokens[position]? = some token → (around tokens position).Marks token.value
  /-- Past the last token, the caret stands behind the line. -/
  past : tokens.length ≤ position → (around tokens position).PointsPast
  /-- The line and the column depend on the words up to four places away and on nothing else. -/
  near : ∀ others : List Token,
    (∀ index, position ≤ index + 4 → index ≤ position + 4 →
      tokens[index]?.map (·.value) = others[index]?.map (·.value)) →
    around tokens position = around others position

theorem Excerpt.shows (tokens : List Token) (position : Nat) : Shows tokens position where
  marks _ here := marks_around here
  past := pointsPast_around
  near _ agree := around_congr agree

/-- A diagnostic is a page of five lines with an excerpt and a caret, whatever its position is. The
caret of a parse error stands below the token that the error tells, or one blank behind the line
when the input has ended; the caret of a warning stands below the name it warns of, whatever the
session was asked. -/
theorem Listing.caret_marks (listing : Listing) :
    (∀ error, listing.renderError error =
      String.join ((listing.page s!"error[{error.code}]" error.expected error.position
        (" " ++ noteOf error)).map (· ++ "\n"))) ∧
    (∀ warning, listing.renderWarning warning =
      String.join ((listing.page "warning" warning.message warning.position "").map
        (· ++ "\n"))) ∧
    (∀ position, Excerpt.Shows listing.tokens position) ∧
    (∀ oracle error, parse listing.tokens oracle = .error error →
      let excerpt := Excerpt.around listing.tokens error.position
      (∃ found, error.found = some found ∧ excerpt.Marks found) ∨
        (error.found = none ∧ excerpt.column = excerpt.line.length + 1)) ∧
    (∀ oracle operations,
      ∀ warning ∈ ((Session.start listing.tokens oracle).after operations).warnings,
        (Excerpt.around listing.tokens warning.position).Marks warning.name) := by
  refine ⟨fun error => ?_, fun warning => ?_, Excerpt.shows listing.tokens, ?_, ?_⟩
  · exact listing.render_eq_page ..
  · exact listing.render_eq_page ..
  · intro oracle error failed excerpt
    rcases quotes_of_parse_error failed with ⟨token, here, found⟩ | ⟨ended, place, written⟩
    · exact .inl ⟨token.value, found, Excerpt.marks_around here⟩
    · refine .inr ⟨ended, ?_⟩
      have past := Excerpt.pointsPast_around (Nat.le_of_eq place.symm)
      rwa [Excerpt.PointsPast, if_neg written] at past
  · intro oracle operations warning found
    obtain ⟨token, here, name⟩ := Session.exists_token_of_mem_warnings found
    rw [← name]
    exact Excerpt.marks_around here

/-- An assignment without `=`, cut off or not, in a program that first shows `é`. -/
theorem Listing.caret_marks_missing_equals :
    let tokens : List Token := [⟨.keyword, "display"⟩, ⟨.identifier, "é"⟩, ⟨.keyword, "set"⟩,
      ⟨.identifier, "x"⟩, ⟨.number, "5"⟩]
    let oracle : Option Oracle := some (.constant false)
    let operations : List Session.Operation := [.advance, .statement .display]
    let expected := "Expected '=' after identifier."
    let excerpt := Excerpt.around tokens
    let cutExcerpt := Excerpt.around (tokens.take 4) 4
    parse tokens oracle = .error ⟨4, some "5", expected⟩ ∧ (excerpt 4).Marks "5" ∧
      ⟨1, "é"⟩ ∈ ((Session.start tokens oracle).after operations).warnings ∧
      (excerpt 1).Marks "é" ∧
      tokens.length ≤ 7 ∧ (excerpt 7).column = 4 ∧
      excerpt 0 = Excerpt.around (tokens ++ [⟨.keyword, "exit"⟩]) 0 ∧
      parse (tokens.take 4) oracle = .error ⟨4, none, expected⟩ ∧
      cutExcerpt.column = cutExcerpt.line.length + 1 := by
  intro tokens oracle operations expected excerpt cutExcerpt
  let sentence : Sentence := ⟨⟨.keyword, "display"⟩, [⟨.identifier, "é"⟩], .cons rfl .nil⟩
  let fragment : Fragment :=
    { first := ⟨.keyword, "set"⟩
      before := [⟨.kind .identifier, "Expected identifier after 'set'."⟩]
      slot := ⟨.word "=", expected⟩
      others := [⟨.any, "Expected value after '='."⟩]
      slots_eq := by decide
      taken := [⟨.identifier, "x"⟩]
      filled := .cons rfl .nil
      rest := [⟨.number, "5"⟩]
      unmet := by decide }
  have whole : parse tokens oracle = .error ⟨4, some "5", expected⟩ :=
    parse_of_fragment [sentence] fragment oracle
  have cut : parse (tokens.take 4) oracle = .error ⟨4, none, expected⟩ :=
    parse_of_fragment [sentence] { fragment with rest := [], unmet := nofun } oracle
  have warned : ⟨1, "é"⟩ ∈ ((Session.start tokens oracle).after operations).warnings :=
    List.mem_singleton.mpr rfl
  obtain ⟨_, _, shows, errors, warnings⟩ := Listing.caret_marks ⟨"prog.json", tokens⟩
  obtain ⟨_, _, _, cutErrors, _⟩ := Listing.caret_marks ⟨"prog.json", tokens.take 4⟩
  have agree : ∀ index, 0 ≤ index + 4 → index ≤ 0 + 4 →
      tokens[index]?.map (·.value) =
        (tokens ++ [⟨.keyword, "exit"⟩])[index]?.map (·.value) := by
    intro index _ near
    rw [List.getElem?_append_left (Nat.lt_succ_of_le near)]
  have line : (excerpt 7).line = "x 5" := rfl
  have past : (excerpt 7).PointsPast := (shows 7).past (by decide)
  rw [Excerpt.PointsPast, line] at past
  refine ⟨whole, ?_, warned, warnings oracle operations ⟨1, "é"⟩ warned, by decide, ?_,
    (shows 0).near _ agree, cut, ?_⟩
  · rcases errors oracle _ whole with ⟨found, same, marks⟩ | ⟨ended, _⟩
    · cases same
      exact marks
    · cases ended
  · rw [past]
    decide
  · rcases cutErrors oracle _ cut with ⟨found, same, _⟩ | ⟨_, column⟩
    · cases same
    · exact column

example :
    (Listing.mk "prog.json" [⟨.keyword, "set"⟩, ⟨.identifier, "é"⟩, ⟨.number, "5"⟩]).renderError
        ⟨2, some "5", "Expected '=' after identifier."⟩ =
      "error[P0001]: Expected '=' after identifier.\n  --> prog.json: token 2\n   |\n" ++
        "   | set é 5\n   |       ^ found '5'\n" := by
  rfl

end Scl
