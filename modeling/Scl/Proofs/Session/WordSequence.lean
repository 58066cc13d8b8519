import Mathlib.Order.Bounds.Basic
import Scl.Proofs.Session.Invariant

/-! # Words that are passed in turn

Words are asked for like the slots of a statement, so what is known of slots holds of them: the
words at the front are passed as far as tokens fill their slots, and the error names the first word
that is missing. How far that is can be told from the tokens and the words alone, as the largest
number of words that the tokens at the cursor spell. What an error says apart from its sentence is
kept by every step, and so is the list of warnings by a step that does not read what follows
`display`.
-/

namespace Scl

/-- The words up to a count are spelled by the tokens from a position on. -/
structure SpelledFrom (tokens : List Token) (position : Nat) (words : List String)
    (count : Nat) : Prop where
  within : count ≤ words.length
  each : ∀ index < count, ∃ token word, tokens[position + index]? = some token ∧
    words[index]? = some word ∧ Text.sameWord token.value word = true

namespace Parsing

variable {session : Session} {taken rest : List Token} {words before : List String}

/-- Passing words is filling slots that ask for them, apart from the leaves. -/
theorem expectWords_eq (words : List String) :
    expectWords words = (do
      let _ ← fillAll (words.map Slot.ofWord)
      return ()) := by
  have filled (word : String) : fill (.ofWord word) = (do
      let _ ← expectWord word (Slot.expectedWord word)
      return word) := rfl
  induction words with
  | nil => rfl
  | cons word words ih =>
    simp only [expectWords, ih, List.map_cons, fillAll, filled, bind_assoc, pure_bind]

theorem expectWords_of_filled (filled : Slot.Filled (words.map Slot.ofWord) taken)
    (here : session.rest = taken ++ rest) :
    expectWords words session = .ok () ((words.map Slot.ofWord).foldl Session.take session) := by
  rw [expectWords_eq, bind_of_ok (fillAll_of_filled filled here)]
  rfl

/-- The words before the missing one are passed, and their tokens stay passed. -/
theorem expectWords_of_unmet (word : String) (others : List String)
    (filled : Slot.Filled (before.map Slot.ofWord) taken) (here : session.rest = taken ++ rest)
    (unmet : ∀ token ∈ rest.head?, Text.sameWord token.value word = false) :
    let after := (before.map Slot.ofWord).foldl Session.take session
    expectWords (before ++ word :: others) session =
      .error (after.failure (Slot.expectedWord word)) after := by
  intro after
  have stopped : fillAll (before.map Slot.ofWord ++ .ofWord word :: others.map Slot.ofWord)
      session = .error (after.failure (Slot.expectedWord word)) after :=
    fillAll_of_unmet filled here unmet
  rw [expectWords_eq, List.map_append, List.map_cons, bind_of_error stopped]

end Parsing

/-- The item behind a beginning, if there is one, is the first of what follows it. -/
theorem getElem?_append_length {α : Type} (front later : List α) :
    (front ++ later)[front.length]? = later.head? := by
  rw [List.getElem?_append_right (Nat.le_refl _), Nat.sub_self, List.head?_eq_getElem?]

/-- Words are spelled as far as they fill slots, and no further than to a word that the next token
does not spell. -/
theorem isGreatest_spelledFrom {tokens taken rest : List Token} {position : Nat}
    {before : List String} (others : List String)
    (filled : Slot.Filled (before.map Slot.ofWord) taken)
    (here : tokens.drop position = taken ++ rest)
    (stops : ∀ word ∈ others.head?, ∀ token ∈ rest.head?,
      Text.sameWord token.value word = false) :
    IsGreatest {count | SpelledFrom tokens position (before ++ others) count} before.length := by
  have spelled := List.forall₂_map_left_iff.mp filled
  have width : before.length = taken.length := spelled.length_eq
  have ahead (index : Nat) : tokens[position + index]? = (taken ++ rest)[index]? := by
    rw [← List.getElem?_drop, here]
  constructor
  · constructor
    · rw [List.length_append]
      omega
    · intro index inside
      have taking : index < taken.length := by omega
      refine ⟨taken[index], before[index], ?_, ?_, spelled.get inside taking⟩
      · rw [ahead, List.getElem?_append_left taking, List.getElem?_eq_getElem taking]
      · rw [List.getElem?_append_left inside, List.getElem?_eq_getElem inside]
  · rintro count ⟨_, each⟩
    by_contra further
    obtain ⟨token, word, next, wanted, same⟩ := each before.length (by omega)
    rw [ahead, width, getElem?_append_length] at next
    rw [getElem?_append_length] at wanted
    have differs := stops word wanted token next
    rw [same] at differs
    cases differs

namespace Session

/-- How asking for words ends: behind the longest beginning of them that the tokens at the cursor
spell, and with an error that names the first word missing, if there is one. -/
structure PassesWords (tokens : List Token) (session : Session) (words : List String)
    (answer : Answer) (after : Session) (count : Nat) : Prop where
  longest : IsGreatest {count | SpelledFrom tokens session.position words count} count
  cursor : after.position = session.position + count
  warnings : after.warnings = session.warnings
  complete : count = words.length → answer = .done
  missing : ∀ word, words[count]? = some word → ∃ error, answer = .failed error ∧
    error.position = session.position + count ∧ error.expected = s!"Expected '{word}'." ∧
    (error.found = none ↔ session.position + count = tokens.length) ∧
    ∀ token, tokens[session.position + count]? = some token → error.found = some token.value

section Step

variable {session : Session} {taken rest : List Token} {words before : List String}

theorem position_takeWords (filled : Slot.Filled (before.map Slot.ofWord) taken)
    (here : session.rest = taken ++ rest) :
    ((before.map Slot.ofWord).foldl take session).position = session.position + before.length := by
  rw [position_takeAll filled here, ← filled.length_eq, List.length_map]

/-- Only what follows `display` adds a warning, so asking for words adds none. -/
theorem warnings_step_expectWords (session : Session) (words : List String) :
    (session.step (.expectWords words)).2.warnings = session.warnings := by
  obtain ⟨added, grown, _, shown⟩ := (invariant_step session (.expectWords words)).grows nofun
  have none : added = [] := by
    by_contra some
    obtain ⟨displays, _⟩ := shown some
    cases displays
  rw [grown, none, List.append_nil]

theorem passesWords_of_filled (filled : Slot.Filled (words.map Slot.ofWord) taken)
    (here : session.rest = taken ++ rest) :
    PassesWords session.tokens session words (session.step (.expectWords words)).1
      (session.step (.expectWords words)).2 words.length := by
  have warnings := warnings_step_expectWords session words
  have longest := isGreatest_spelledFrom [] filled ((rest_eq_drop session).symm.trans here) nofun
  rw [List.append_nil] at longest
  rw [step, perform, Parsing.expectWords_of_filled filled here] at warnings ⊢
  refine ⟨longest, position_takeWords filled here, warnings, fun _ => rfl, ?_⟩
  intro word beyond
  rw [List.getElem?_eq_none (Nat.le_refl _)] at beyond
  cases beyond

theorem passesWords_of_unmet (word : String) (others : List String)
    (filled : Slot.Filled (before.map Slot.ofWord) taken) (here : session.rest = taken ++ rest)
    (unmet : ∀ token ∈ rest.head?, Text.sameWord token.value word = false) :
    let performed := session.step (.expectWords (before ++ word :: others))
    PassesWords session.tokens session (before ++ word :: others) performed.1 performed.2
      before.length := by
  intro performed
  have stops : ∀ missing ∈ (word :: others).head?, ∀ token ∈ rest.head?,
      Text.sameWord token.value missing = false := by
    rintro _ ⟨⟩
    exact unmet
  have longest :=
    isGreatest_spelledFrom (word :: others) filled ((rest_eq_drop session).symm.trans here) stops
  let last := (before.map Slot.ofWord).foldl take session
  have ran : performed = (.failed (last.failure (Slot.expectedWord word)), last) := by
    change session.perform _ _ = _
    rw [perform, Parsing.expectWords_of_unmet word others filled here unmet]
  have cursor : performed.2.position = session.position + before.length := by
    rw [ran]
    exact position_takeWords filled here
  refine ⟨longest, cursor, warnings_step_expectWords session _, ?_, ?_⟩
  · intro complete
    rw [List.length_append, List.length_cons] at complete
    omega
  · intro missing next
    rw [getElem?_append_length] at next
    cases next
    have failed : performed.1 = .failed (performed.2.failure (Slot.expectedWord word)) := by
      rw [ran]
    obtain ⟨placed, ended, quoted⟩ := (invariant_step session _).reported _ failed
    rw [cursor] at placed ended
    refine ⟨_, failed, placed, rfl, ended, fun token there => ?_⟩
    rw [quoted, peek_eq_getElem?, tokens_step, cursor, there]
    rfl

theorem exists_passesWords (session : Session) (words : List String) :
    ∃ count, PassesWords session.tokens session words (session.step (.expectWords words)).1
      (session.step (.expectWords words)).2 count := by
  rcases Slot.filled_or_unmet (words.map Slot.ofWord) session.rest with
    ⟨taken, rest, here, filled⟩ | ⟨_, _, _, taken, rest, cut, here, filled, unmet⟩
  · exact ⟨words.length, passesWords_of_filled filled here⟩
  · obtain ⟨before, _, rfl, rfl, asked⟩ := List.map_eq_append_iff.mp cut
    obtain ⟨word, others, rfl, rfl, rfl⟩ := List.map_eq_cons_iff.mp asked
    exact ⟨before.length, passesWords_of_unmet word others filled here unmet⟩

end Step

/-- Whatever was asked of a session before, asking for words passes the longest beginning of them
that the tokens at the cursor spell, and no token more. -/
theorem expectWords_longest (tokens : List Token) (oracle : Option Oracle)
    (history : List Operation) (words : List String) :
    let session := (start tokens oracle).after history
    let performed := session.step (.expectWords words)
    ∃ count, PassesWords tokens session words performed.1 performed.2 count := by
  intro session performed
  have kept : session.tokens = tokens := tokens_after (start tokens oracle) history
  have passes := exists_passesWords session words
  rwa [kept] at passes

end Session

end Scl
