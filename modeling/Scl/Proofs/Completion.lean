import Scl.Proofs.Outcome

/-! # What may follow a failure

An error is found as early as it can be. The tokens before it can be completed to a program, since
for every slot there is a token that fills it. The token at it cannot be part of any program that
begins in this way: whatever follows, the error and the warnings are the same.
-/

namespace Scl

theorem Slot.exists_admits (slot : Slot) : ∃ token, slot.shape.admits token = true := by
  cases slot.shape with
  | kind kind => exact ⟨⟨kind, ""⟩, beq_self_eq_true kind⟩
  | declared => exact ⟨⟨.identifier, ""⟩, rfl⟩
  | word word => exact ⟨⟨.keyword, word⟩, Text.sameWord_refl word⟩
  | any => exact ⟨⟨.keyword, ""⟩, rfl⟩

theorem Slot.exists_filled (slots : List Slot) : ∃ tokens, Filled slots tokens := by
  induction slots with
  | nil => exact ⟨[], .nil⟩
  | cons slot slots ih =>
    obtain ⟨token, admitted⟩ := slot.exists_admits
    obtain ⟨tokens, filled⟩ := ih
    exact ⟨token :: tokens, .cons admitted filled⟩

namespace Fragment

variable (fragment : Fragment)

/-- What was read of a fragment is the beginning of a sentence. -/
theorem exists_completion :
    ∃ completion, ∃ sentence : Sentence,
      sentence.span = fragment.first :: fragment.taken ++ completion := by
  obtain ⟨completion, filled⟩ := Slot.exists_filled (fragment.slot :: fragment.others)
  have whole : Slot.Filled fragment.first.slots (fragment.taken ++ completion) := by
    rw [fragment.slots_eq]
    exact List.rel_append fragment.filled filled
  exact ⟨completion, ⟨fragment.first, _, whole⟩, rfl⟩

/-- The fragment with the same token at its unmet slot and other tokens after it. -/
def followedBy {token : Token} {rest : List Token} (stopped : fragment.rest = token :: rest)
    (more : List Token) : Fragment :=
  { fragment with
    rest := token :: more
    unmet := by
      have unmet := fragment.unmet
      rwa [stopped] at unmet }

theorem take_followedBy {token : Token} {rest : List Token}
    (stopped : fragment.rest = token :: rest) (earlier more : List Token) :
    (earlier ++ fragment.tokens).take (earlier.length + fragment.width + 1) ++ more =
      earlier ++ (fragment.followedBy stopped more).tokens := by
  have upTo : fragment.tokens.take (fragment.width + 1) =
      fragment.first :: fragment.taken ++ [token] := by
    rw [tokens_eq, width_eq, List.take_length_add_append, stopped]
    rfl
  rw [Nat.add_assoc, List.take_length_add_append, upTo]
  simp [tokens_eq, followedBy]

/-- Sentences and what was read of a fragment can be completed to a program. -/
theorem parse_completion (sentences : List Sentence) :
    ∃ completion tree, ∀ oracle,
      parse (Sentence.spans sentences ++ fragment.first :: fragment.taken ++ completion) oracle =
        .ok tree := by
  obtain ⟨completion, sentence, span⟩ := fragment.exists_completion
  have cut : Sentence.spans (sentences ++ [sentence]) =
      Sentence.spans sentences ++ fragment.first :: fragment.taken ++ completion := by
    rw [Sentence.spans_append, List.append_assoc, ← span]
    simp [Sentence.span]
  exact ⟨completion, _, fun oracle => cut ▸ parse_of_sentences (sentences ++ [sentence]) oracle⟩

end Fragment

/-- If parsing fails at a token, then what is before the token can be completed, and nothing after
the token changes the failure. If it fails at the end, then the tokens can be completed. -/
theorem parse_fails_early {tokens : List Token} {oracle : Option Oracle} {error : ParseError}
    (failure : parse tokens oracle = .error error) :
    (error.found.isSome = true →
      error.position < tokens.length ∧
      (∃ completion tree, ∀ other,
        parse (tokens.take error.position ++ completion) other = .ok tree) ∧
      ∀ more other,
        parse (tokens.take (error.position + 1) ++ more) other = .error error ∧
        parseWarnings (tokens.take (error.position + 1) ++ more) other =
          parseWarnings tokens other) ∧
    (error.found = none →
      error.position = tokens.length ∧
      ∃ completion tree, ∀ other, parse (tokens ++ completion) other = .ok tree) := by
  rcases exists_cut tokens with ⟨sentences, rfl⟩ | ⟨sentences, fragment, rfl⟩
  · rw [parse_of_sentences] at failure
    contradiction
  rw [parse_of_fragment] at failure
  obtain rfl := Except.error.inj failure
  have completed := fragment.parse_completion sentences
  have length := fragment.length_tokens
  cases stopped : fragment.rest with
  | nil =>
    refine ⟨fun quoted => ?_, fun _ => ⟨?_, ?_⟩⟩
    · simp [stopped] at quoted
    · rw [List.length_append, length, stopped]
      rfl
    · rwa [fragment.tokens_eq, stopped, List.append_nil]
  | cons token rest =>
    refine ⟨fun _ => ⟨?_, ?_, fun more other => ?_⟩, fun atEnd => ?_⟩
    · rw [List.length_append, length, stopped, List.length_cons, Fragment.position_error]
      omega
    · rwa [Fragment.position_error, fragment.take_append_tokens]
    · -- The same sentences and the same fragment are read, up to what comes after the token.
      rw [Fragment.position_error, fragment.take_followedBy stopped, parse_of_fragment,
        parseWarnings_of_fragment, parseWarnings_of_fragment]
      simp [Fragment.error, Fragment.warnings, Fragment.followedBy, Fragment.width, stopped]
    · simp [stopped] at atEnd

/-- After `define x`, the word `as` ends every parse in the same way. -/
theorem parse_fails_early_define_as :
    parse [⟨.keyword, "define"⟩, ⟨.identifier, "x"⟩, ⟨.keyword, "as"⟩] none =
        .error ⟨2, some "as", "Expected 'of'."⟩ ∧
      ∀ more other,
        parse (⟨.keyword, "define"⟩ :: ⟨.identifier, "x"⟩ :: ⟨.keyword, "as"⟩ :: more) other =
          .error ⟨2, some "as", "Expected 'of'."⟩ := by
  let fragment : Fragment :=
    { first := ⟨.keyword, "define"⟩
      before := [⟨.kind .identifier, "Expected identifier after 'define'."⟩]
      slot := .ofWord "of"
      others := [.ofWord "type", ⟨.kind .keyword, "Expected type keyword."⟩]
      slots_eq := by decide
      taken := [⟨.identifier, "x"⟩]
      filled := .cons rfl .nil
      rest := [⟨.keyword, "as"⟩]
      unmet := by decide }
  have failure : parse [⟨.keyword, "define"⟩, ⟨.identifier, "x"⟩, ⟨.keyword, "as"⟩] none =
      .error ⟨2, some "as", "Expected 'of'."⟩ :=
    parse_of_fragment [] fragment none
  obtain ⟨_, _, same⟩ := (parse_fails_early failure).1 rfl
  exact ⟨failure, fun more other => (same more other).1⟩

end Scl
