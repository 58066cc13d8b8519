import Scl.Proofs.Caret

/-! # Which words stand on the line of an excerpt

Whether a blank goes in front of a word is decided by the line, not by the place of the word: an
empty word that nothing stands before leaves no trace, so the blank behind it is missing, too. The
line is therefore the words in reach, one blank between neighbours, from the first on that is not
empty (`Excerpt.line_around`), and the column counts the words before the position from there on.
Every word is in its own place exactly when no empty word comes first, unless it comes alone
(`Excerpt.inPlace_iff`).
-/

namespace Scl.Excerpt

/-- The words of the tokens in reach of a position, on both sides of it. -/
def shown (tokens : List Token) (position : Nat) : List String :=
  ((tokens.take (position + reach + 1)).drop (position - reach)).map (·.value)

/-- The words from the first on that is not empty. -/
def begun (words : List String) : List String :=
  words.dropWhile (· == "")

/-- The columns that words take, with one more behind each of them. -/
def columns (words : List String) : Nat :=
  (words.map fun word => word.length + 1).sum

/-- Every word in reach has a place on the line, one blank behind the word before it, and the caret
of a token stands behind all the words before the token. -/
def InPlace (tokens : List Token) (position : Nat) : Prop :=
  (around tokens position).line = " ".intercalate (shown tokens position) ∧
    (position < tokens.length →
      (around tokens position).column = columns (wordsBefore tokens position))

section Words

variable {line word : String} {words others : List String}

@[simp] theorem columns_nil : columns [] = 0 := rfl

@[simp] theorem columns_cons (word : String) (words : List String) :
    columns (word :: words) = word.length + 1 + columns words := by
  simp [columns]

theorem columns_append (words others : List String) :
    columns (words ++ others) = columns words + columns others := by
  simp [columns]

theorem length_le_columns (words : List String) : words.length ≤ columns words := by
  induction words with
  | nil => exact Nat.le_refl 0
  | cons word words ih =>
    rw [columns_cons, List.length_cons]
    omega

theorem begun_cons_empty (words : List String) : begun ("" :: words) = begun words := rfl

theorem begun_cons_of_ne (filled : word ≠ "") : begun (word :: words) = word :: words := by
  rw [begun, List.dropWhile_cons_of_neg]
  exact fun empty => filled (beq_iff_eq.mp empty)

theorem begun_of_head?_ne (filled : words.head? ≠ some "") : begun words = words := by
  cases words with
  | nil => rfl
  | cons word words => exact begun_cons_of_ne fun empty => filled (congrArg some empty)

/-- What is left starts with a word that is not empty, if anything is left. -/
theorem head?_begun_ne (words : List String) : (begun words).head? ≠ some "" := by
  induction words with
  | nil => exact nofun
  | cons word words ih =>
    by_cases empty : word = ""
    · subst empty
      exact ih
    · rw [begun_cons_of_ne empty]
      exact fun same => empty (Option.some.inj same)

/-- Words behind something that is not empty are written with a blank before each. -/
theorem write_of_ne_empty (written : line ≠ "") :
    write line words = " ".intercalate (line :: words) := by
  induction words generalizing line with
  | nil => exact String.intercalate_singleton.symm
  | cons word words ih =>
    have longer : line ++ " " ++ word ≠ "" := by
      intro empty
      obtain ⟨start, _⟩ := String.append_eq_empty_iff.mp empty
      exact written (String.append_eq_empty_iff.mp start).1
    change write (ready line ++ word) words = _
    rw [ready_of_ne_empty written, String.push_eq_append]
    change write (line ++ " " ++ word) words = _
    rw [ih longer, String.intercalate_cons_append, String.intercalate_cons_cons]

/-- On an empty line, nothing is written of the empty words that come first. -/
theorem write_empty (words : List String) : write "" words = " ".intercalate (begun words) := by
  induction words with
  | nil => exact String.intercalate_nil.symm
  | cons word words ih =>
    change write ("" ++ word) words = _
    rw [String.empty_append]
    by_cases empty : word = ""
    · rw [empty, begun_cons_empty, ih]
    · rw [begun_cons_of_ne empty]
      exact write_of_ne_empty empty

/-- The word in front is not among `words`, so that the induction can move on to the next one. -/
theorem length_intercalate (word : String) (words : List String) :
    (" ".intercalate (word :: words)).length + 1 = columns (word :: words) := by
  induction words generalizing word with
  | nil => simp
  | cons next words ih =>
    have blank : " ".length = 1 := rfl
    have later := ih next
    rw [String.intercalate_cons_cons, String.length_append, String.length_append, columns_cons]
    omega

theorem length_intercalate_le_cons (word : String) (words : List String) :
    (" ".intercalate words).length ≤ (" ".intercalate (word :: words)).length := by
  cases words with
  | nil => exact Nat.zero_le _
  | cons next words =>
    rw [String.intercalate_cons_cons, String.length_append]
    omega

theorem length_intercalate_begun_le (words : List String) :
    (" ".intercalate (begun words)).length ≤ (" ".intercalate words).length := by
  induction words with
  | nil => exact Nat.le_refl _
  | cons word words ih =>
    by_cases empty : word = ""
    · rw [empty, begun_cons_empty]
      exact Nat.le_trans ih (length_intercalate_le_cons "" words)
    · have whole : begun (word :: words) = word :: words := begun_cons_of_ne empty
      exact Nat.le_of_eq (congrArg (fun words => (" ".intercalate words).length) whole)

/-- Where the next word begins once words were written on an empty line. -/
theorem length_ready_write (words : List String) :
    (ready (write "" words)).length = columns (begun words) := by
  have starts := head?_begun_ne words
  rw [write_empty, length_ready]
  cases left : begun words with
  | nil => rfl
  | cons word later =>
    rw [left] at starts
    have written : " ".intercalate (word :: later) ≠ "" := by
      rw [← begun_of_head?_ne starts, ← write_empty]
      exact write_ne_empty (List.mem_cons_self ..) fun empty => starts (congrArg some empty)
    rw [if_neg written, length_intercalate]

/-- Leaving the first words out changes the text unless there are none to leave out. -/
theorem intercalate_begun_eq_iff :
    " ".intercalate (begun words) = " ".intercalate words ↔
      words.head? ≠ some "" ∨ words.length ≤ 1 := by
  constructor
  · intro same
    by_contra loses
    obtain ⟨begins, several⟩ := not_or.mp loses
    have empty : words.head? = some "" := not_not.mp begins
    match words, empty with
    | "" :: next :: words, rfl =>
      have shorter := length_intercalate_begun_le (next :: words)
      have blank : " ".length = 1 := rfl
      rw [begun_cons_empty, String.intercalate_cons_cons] at same
      rw [same, String.length_append, String.length_append] at shorter
      omega
    | [_], rfl => exact absurd several (by decide)
  · rintro (filled | few)
    · rw [begun_of_head?_ne filled]
    · match words, few with
      | [], _ => rfl
      | [word], _ =>
        by_cases empty : word = ""
        · subst empty
          rfl
        · rw [begun_cons_of_ne empty]

end Words

section Around

variable {tokens : List Token} {position other : Nat}

/-- The words in reach are those before the position and those from the position on. -/
theorem shown_eq (tokens : List Token) (position : Nat) :
    shown tokens position = wordsBefore tokens position ++ wordsFrom tokens position := by
  have whole : (tokens.map (·.value)).take (position + (reach + 1)) =
      (tokens.map (·.value)).take position ++ wordsFrom tokens position := List.take_add
  rw [shown, List.map_drop, List.map_take, Nat.add_assoc, whole]
  by_cases inside : position ≤ tokens.length
  · have enough : position - reach ≤ ((tokens.map (·.value)).take position).length := by
      rw [List.length_take, List.length_map]
      omega
    rw [List.drop_append_of_le_length enough, wordsBefore]
  · rw [wordsFrom_of_length_le (by omega), List.append_nil, List.append_nil, wordsBefore]

/-- The line of an excerpt is the words in reach without the empty ones that come first. -/
theorem line_around (tokens : List Token) (position : Nat) :
    (around tokens position).line = " ".intercalate (begun (shown tokens position)) := by
  rw [← write_empty, shown_eq, around_eq]
  exact (List.foldl_append ..).symm

/-- The caret stands behind the words before the position, without the empty ones that come
first. -/
theorem column_around (tokens : List Token) (position : Nat) :
    (around tokens position).column = columns (begun (wordsBefore tokens position)) :=
  length_ready_write _

theorem column_around_of_head?_ne (filled : (shown tokens position).head? ≠ some "") :
    (around tokens position).column = columns (wordsBefore tokens position) := by
  have first : (wordsBefore tokens position).head? ≠ some "" := by
    rw [shown_eq] at filled
    cases before : wordsBefore tokens position with
    | nil => exact nofun
    | cons word words => rwa [before] at filled
  rw [column_around, begun_of_head?_ne first]

/-- A single word is in reach of a position only if none is before it. -/
theorem wordsBefore_of_length_le (few : (shown tokens position).length ≤ 1)
    (inside : position < tokens.length) : wordsBefore tokens position = [] := by
  obtain ⟨later, following⟩ := wordsFrom_of_getElem? (List.getElem?_eq_getElem inside)
  rw [shown_eq, following, List.length_append, List.length_cons] at few
  exact List.eq_nil_of_length_eq_zero (by omega)

/-- Every word is in its own place exactly when no empty word comes first, unless it comes alone. -/
theorem inPlace_iff :
    InPlace tokens position ↔
      (shown tokens position).head? ≠ some "" ∨ (shown tokens position).length ≤ 1 := by
  rw [InPlace, line_around, intercalate_begun_eq_iff, and_iff_left_iff_imp]
  rintro (filled | few) inside
  · exact column_around_of_head?_ne filled
  · rw [column_around, wordsBefore_of_length_le few inside]
    rfl

/-- The first word in reach is the one as far before the position as there are words. -/
theorem head?_shown (tokens : List Token) (position : Nat) :
    (shown tokens position).head? = (tokens.map (·.value))[position - reach]? := by
  rw [shown, List.map_drop, List.map_take, List.head?_drop, List.getElem?_take_of_lt (by omega)]

theorem head?_wordsBefore (some : 0 < position) :
    (wordsBefore tokens position).head? = (tokens.map (·.value))[position - reach]? := by
  have before : position - reach < position := Nat.sub_lt some (by decide)
  rw [wordsBefore, List.head?_drop, List.getElem?_take_of_lt before]

/-- Of two positions whose excerpts begin with the same word, the later one has more words before
it. -/
theorem exists_wordsBefore_append (before : position < other) (inside : other ≤ tokens.length)
    (same : position - reach = other - reach) :
    ∃ words, words ≠ [] ∧
      wordsBefore tokens other = wordsBefore tokens position ++ words := by
  let values := tokens.map (·.value)
  have count : values.length = tokens.length := List.length_map ..
  have cut : values.take other =
      values.take position ++ (values.drop position).take (other - position) := by
    rw [← List.take_add, Nat.add_sub_cancel' (Nat.le_of_lt before)]
  have enough : position - reach ≤ (values.take position).length := by
    rw [List.length_take]
    omega
  refine ⟨(values.drop position).take (other - position), ?_, ?_⟩
  · apply List.ne_nil_of_length_pos
    rw [List.length_take, List.length_drop]
    omega
  · change (values.take other).drop (other - reach) = _
    rw [← same, cut, List.drop_append_of_le_length enough]
    rfl

/-- On one line, which does not begin with an empty word, carets of later positions stand further
to the right. -/
theorem column_around_lt (before : position < other) (inside : other ≤ tokens.length)
    (same : position - reach = other - reach)
    (filled : (shown tokens position).head? ≠ some "") :
    (around tokens position).column < (around tokens other).column := by
  obtain ⟨words, more, whole⟩ := exists_wordsBefore_append before inside same
  have first : (wordsBefore tokens other).head? ≠ some "" := by
    rwa [head?_wordsBefore (Nat.zero_lt_of_lt before), ← same, ← head?_shown]
  have positive := List.length_pos_of_ne_nil more
  have width := length_le_columns words
  rw [column_around_of_head?_ne filled, column_around, begun_of_head?_ne first, whole,
    columns_append]
  omega

end Around

/-- What a diagnostic shows of the tokens, wherever it points: the words in reach from the first on
that is not empty, with one blank between neighbours, and below them the caret behind those before
the position. It is written unless this column is too far to the right. Every word is in its own
place as long as no empty word comes first, and no longer. Then two carets below one line never
stand in the same column. -/
theorem render_joins (listing : Listing) (position : Nat) :
    let tokens := listing.tokens
    let column := columns (begun (wordsBefore tokens position))
    let page (heading sentence : String) (note : Option String) :=
      String.join ([heading ++ ": " ++ sentence, s!"  --> {listing.file}: token {position}", "   |",
        "   | " ++ " ".intercalate (begun (shown tokens position)),
        "   | " ++ String.ofList (List.replicate column ' ') ++ "^" ++
          note.elim "" (" " ++ ·)].map (· ++ "\n"))
    (∀ heading sentence note,
      listing.render heading sentence position note = page heading sentence note ∧
      listing.render? heading sentence position note =
        if column ≤ widest then some (page heading sentence note) else none) ∧
    (InPlace tokens position ↔
      (shown tokens position).head? ≠ some "" ∨ (shown tokens position).length ≤ 1) ∧
    ∀ other, position < other → other < tokens.length → position - reach = other - reach →
      (shown tokens position).head? ≠ some "" →
      (around tokens position).column < (around tokens other).column := by
  intro tokens column page
  refine ⟨?_, inPlace_iff, ?_⟩
  · intro heading sentence note
    have text : listing.render heading sentence position note = page heading sentence note := by
      rw [listing.render_eq_page, Listing.page, line_around, column_around]
    have fits : (around tokens position).Fits ↔ column ≤ widest := by
      rw [Fits, column_around]
    refine ⟨text, ?_⟩
    rw [Listing.render?, text]
    exact if_congr fits rfl rfl
  · intro other before inside same filled
    exact column_around_lt before (Nat.le_of_lt inside) same filled

/-- Behind an empty word that comes first, no blank is written: the words after it move to the left,
and its caret stands below the next word. -/
theorem not_inPlace_empty_first :
    let tokens : List Token := [⟨.string, ""⟩, ⟨.keyword, "display"⟩, ⟨.number, "5"⟩]
    shown tokens 2 = ["", "display", "5"] ∧ (around tokens 2).line = "display 5" ∧
      (around tokens 2).line ≠ " ".intercalate (shown tokens 2) ∧
      columns (wordsBefore tokens 2) = 9 ∧ (around tokens 2).column = 8 ∧
      ¬ InPlace tokens 2 ∧
      (around tokens 0).line = (around tokens 1).line ∧
      (around tokens 0).column = (around tokens 1).column := by
  refine ⟨by decide, by decide, by decide, by decide, by decide, ?_, by decide, by decide⟩
  rw [inPlace_iff]
  decide

end Scl.Excerpt
