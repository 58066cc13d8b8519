import Scl.Proofs.Acceptance
import Scl.Proofs.Rejection
import Scl.Proofs.Trace

/-! # Where statements start

A statement starts at a position when whole statements are before it and a token is at it. This
speaks of the tokens alone; by `statementStart_iff_traced` these are the positions at which a run
met the start of a statement, up to the one in which it failed.
-/

namespace Scl

/-- Whole statements are before the position, and a token is at it. -/
structure StatementStart (tokens : List Token) (position : Nat) : Prop where
  inside : position < tokens.length
  complete : Nonempty (Derivation (tokens.take position))

/-- No sentence is at the beginning of the tokens. -/
def Stuck (tokens : List Token) : Prop :=
  ∀ (sentence : Sentence) (rest : List Token), sentence.span ++ rest ≠ tokens

theorem stuck_nil : Stuck [] := by
  intro sentence rest same
  cases same

theorem Fragment.stuck (fragment : Fragment) : Stuck fragment.tokens := by
  rintro ⟨first, operands, filled⟩ rest same
  obtain ⟨rfl, following⟩ := List.cons.inj same
  have met : Operand.AllMet (fragment.first.slots.map Slot.operand)
      (fragment.taken ++ fragment.rest) := by
    rw [← following]
    intro index operand at_index
    exact Operand.metAt_of_filled filled at_index
  exact fragment.firstUnmet.not_allMet met

open Sentence

section Cut

variable {sentences : List Sentence} {tail : List Token} {position : Nat}

/-- Sentences at the beginning of a cut are the first sentences of the cut. -/
theorem Sentence.exists_append_of_spans_append {earlier : List Sentence} {rest : List Token}
    (stuck : Stuck tail) (same : spans earlier ++ rest = spans sentences ++ tail) :
    ∃ later, sentences = earlier ++ later ∧ rest = spans later ++ tail := by
  induction earlier generalizing sentences with
  | nil => exact ⟨sentences, rfl, same⟩
  | cons sentence earlier ih =>
    have same : sentence.span ++ (spans earlier ++ rest) = spans sentences ++ tail := by
      rw [← same, spans_cons, span, List.cons_append, List.cons_append, List.append_assoc]
    cases sentences with
    | nil => exact absurd same (stuck sentence _)
    | cons other sentences =>
      have same : sentence.span ++ (spans earlier ++ rest) =
          other.span ++ (spans sentences ++ tail) := by
        rw [same, spans_cons, span, List.cons_append, List.cons_append, List.append_assoc]
      obtain ⟨rfl, following⟩ := eq_of_span_append same
      obtain ⟨later, rfl, rest_eq⟩ := ih following
      exact ⟨later, rfl, rest_eq⟩

/-- Statements start where the sentences of the cut do, and where the rest begins. -/
theorem statementStart_iff_of_cut (stuck : Stuck tail) :
    StatementStart (spans sentences ++ tail) position ↔
      ∃ earlier later, sentences = earlier ++ later ∧ position = (spans earlier).length ∧
        spans later ++ tail ≠ [] := by
  constructor
  · rintro ⟨inside, ⟨derivation⟩⟩
    obtain ⟨earlier, cut, _⟩ := derivation.exists_sentences
    have width : position = (spans earlier).length := by
      rw [cut, List.length_take, Nat.min_eq_left (Nat.le_of_lt inside)]
    have whole := List.take_append_drop position (spans sentences ++ tail)
    rw [← cut] at whole
    obtain ⟨later, split, rest⟩ := exists_append_of_spans_append stuck whole
    refine ⟨earlier, later, split, width, ?_⟩
    rw [← rest]
    exact List.ne_nil_of_length_pos (by rw [List.length_drop]; omega)
  · rintro ⟨earlier, later, rfl, rfl, more⟩
    have regroup : spans (earlier ++ later) ++ tail = spans earlier ++ (spans later ++ tail) := by
      rw [spans_append, List.append_assoc]
    have positive := List.length_pos_of_ne_nil more
    rw [regroup]
    constructor
    · rw [List.length_append]
      omega
    · rw [List.take_left]
      exact ⟨.ofSentences earlier⟩

end Cut

/-- Statements start where the trace of a run has a statement, whether the run succeeds or not. -/
theorem statementStart_iff_traced (tokens : List Token) (oracle : Option Oracle)
    (position : Nat) :
    StatementStart tokens position ↔
      ∃ value handler, Event.statement position value handler ∈ parseTrace tokens oracle := by
  rcases exists_cut tokens with ⟨sentences, rfl⟩ | ⟨sentences, fragment, rfl⟩
  · have starts : StatementStart (spans sentences ++ []) position ↔ _ :=
      statementStart_iff_of_cut stuck_nil
    rw [List.append_nil] at starts
    simp only [starts, parseTrace_of_sentences, mem_collect_iff, statement_mem_events_iff,
      Nat.zero_add]
    constructor
    · rintro ⟨earlier, later, rfl, rfl, more⟩
      cases later with
      | nil => exact absurd rfl more
      | cons sentence later =>
        exact ⟨_, _, earlier, sentence, later, rfl, rfl, rfl, rfl⟩
    · rintro ⟨_, _, earlier, sentence, later, rfl, rfl, rfl, rfl⟩
      exact ⟨earlier, sentence :: later, rfl, rfl, by simp⟩
  · rw [statementStart_iff_of_cut fragment.stuck, parseTrace_of_fragment]
    simp only [List.mem_append, mem_collect_iff, statement_mem_events_iff,
      Fragment.statement_mem_events_iff, Nat.zero_add]
    constructor
    · rintro ⟨earlier, later, rfl, rfl, more⟩
      cases later with
      | nil => exact ⟨_, _, .inr ⟨by rw [List.append_nil], rfl, rfl⟩⟩
      | cons sentence later =>
        exact ⟨_, _, .inl ⟨earlier, sentence, later, rfl, rfl, rfl, rfl⟩⟩
    · rintro ⟨_, _, ⟨earlier, sentence, later, rfl, rfl, rfl, rfl⟩ | ⟨rfl, rfl, rfl⟩⟩
      · exact ⟨earlier, sentence :: later, rfl, rfl, by simp⟩
      · exact ⟨sentences, [], (List.append_nil _).symm, rfl, by simp [Fragment.tokens]⟩

end Scl
