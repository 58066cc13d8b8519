import Mathlib.Data.List.Forall2
import Scl.Keyword

/-! # Cutting tokens into sentences

A sentence is a first token with one admitted token for each slot that its word asks for. A list of
tokens is either cut into sentences without remainder, or into sentences and a fragment, which is
the beginning of one more sentence up to the first slot that is not filled
(`exists_cut`). The word of a sentence fixes how many tokens it takes, so there is one cut only
(`Sentence.spans_injective`). Nothing here refers to a session or to an action.
-/

namespace Scl

/-- The slots take the tokens, one each. -/
abbrev Slot.Filled (slots : List Slot) (tokens : List Token) : Prop :=
  List.Forall₂ (fun slot token => slot.shape.admits token = true) slots tokens

/-- Slots are filled by the next tokens, or some slot is the first that the next token, if there
is one, does not fill. -/
theorem Slot.filled_or_unmet (slots : List Slot) (tokens : List Token) :
    (∃ taken rest, tokens = taken ++ rest ∧ Filled slots taken) ∨
      ∃ before slot others taken rest, slots = before ++ slot :: others ∧
        tokens = taken ++ rest ∧ Filled before taken ∧
        ∀ token ∈ rest.head?, slot.shape.admits token = false := by
  induction slots generalizing tokens with
  | nil => exact .inl ⟨[], tokens, rfl, .nil⟩
  | cons slot slots ih =>
    cases tokens with
    | nil => exact .inr ⟨[], slot, slots, [], [], rfl, rfl, .nil, by simp⟩
    | cons token tokens =>
      cases admitted : slot.shape.admits token with
      | false => exact .inr ⟨[], slot, slots, [], token :: tokens, rfl, rfl, .nil, by simpa⟩
      | true =>
        rcases ih tokens with ⟨taken, rest, rfl, filled⟩ |
          ⟨before, unmet, others, taken, rest, rfl, rfl, filled, unfit⟩
        · exact .inl ⟨token :: taken, rest, rfl, .cons admitted filled⟩
        · exact .inr ⟨slot :: before, unmet, others, token :: taken, rest, rfl, rfl,
            .cons admitted filled, unfit⟩

namespace Handler

def slots : Option Handler → List Slot
  | some (.rule grammar) => grammar.slots
  | some (.placeholder _) => []
  | none => []

def node (word : String) (leaves : List String) : Option Handler → Tree
  | some (.rule grammar) => grammar.node leaves
  | some (.placeholder reserved) => Scl.placeholder reserved
  | none => unknownStatement word

end Handler

/-- The slots that a first token asks for. -/
def Token.slots (first : Token) : List Slot :=
  Handler.slots (Handler.lookup first.value)

/-- A first token and an admitted token for each of its slots. -/
@[ext]
structure Sentence where
  first : Token
  operands : List Token
  filled : Slot.Filled first.slots operands

namespace Sentence

def span (sentence : Sentence) : List Token :=
  sentence.first :: sentence.operands

def leaves (sentence : Sentence) : List String :=
  List.zipWith (fun slot token => slot.shape.label token) sentence.first.slots sentence.operands

def node (sentence : Sentence) : Tree :=
  Handler.node sentence.first.value sentence.leaves (Handler.lookup sentence.first.value)

/-- The tokens of sentences, one after the other. -/
def spans (sentences : List Sentence) : List Token :=
  sentences.flatMap span

@[simp] theorem spans_nil : spans [] = [] := rfl

@[simp] theorem spans_cons (sentence : Sentence) (sentences : List Sentence) :
    spans (sentence :: sentences) = sentence.first :: (sentence.operands ++ spans sentences) := rfl

theorem spans_append (sentences others : List Sentence) :
    spans (sentences ++ others) = spans sentences ++ spans others :=
  List.flatMap_append

/-- No sentence is a proper beginning of another, whatever follows the two. -/
theorem eq_of_span_append {sentence other : Sentence} {rest rest' : List Token}
    (same : sentence.span ++ rest = other.span ++ rest') : sentence = other ∧ rest = rest' := by
  obtain ⟨first, following⟩ := List.cons.inj same
  -- The same first token asks for the same number of operands.
  have lengths : sentence.operands.length = other.operands.length := by
    rw [← sentence.filled.length_eq, ← other.filled.length_eq, first]
  obtain ⟨operands, rest⟩ := List.append_inj following lengths
  exact ⟨Sentence.ext first operands, rest⟩

/-- There is only one way to cut tokens into sentences. -/
theorem spans_injective : Function.Injective spans := by
  intro sentences others same
  induction sentences generalizing others with
  | nil =>
    cases others with
    | nil => rfl
    | cons other others => cases same
  | cons sentence sentences ih =>
    cases others with
    | nil => cases same
    | cons other others =>
      have same : sentence.span ++ spans sentences = other.span ++ spans others := same
      obtain ⟨head, tail⟩ := eq_of_span_append same
      rw [head, ih tail]

end Sentence

/-- The beginning of a sentence with a slot that the rest of the tokens does not fill. -/
structure Fragment where
  first : Token
  /-- The slots that are filled. -/
  before : List Slot
  /-- The first slot that is not. -/
  slot : Slot
  others : List Slot
  slots_eq : first.slots = before ++ slot :: others
  /-- The tokens that fill slots. -/
  taken : List Token
  filled : Slot.Filled before taken
  rest : List Token
  unmet : ∀ token ∈ rest.head?, slot.shape.admits token = false

namespace Fragment

def tokens (fragment : Fragment) : List Token :=
  fragment.first :: (fragment.taken ++ fragment.rest)

/-- The number of tokens before the slot that is not filled. -/
def width (fragment : Fragment) : Nat :=
  1 + fragment.taken.length

variable (fragment : Fragment) (earlier : List Token)

theorem tokens_eq : fragment.tokens = (fragment.first :: fragment.taken) ++ fragment.rest := rfl

theorem width_eq : fragment.width = (fragment.first :: fragment.taken).length :=
  Nat.add_comm ..

theorem length_tokens : fragment.tokens.length = fragment.width + fragment.rest.length := by
  rw [tokens_eq, List.length_append, width_eq]

/-- The unmet slot stands before the rest of the tokens. -/
theorem getElem?_append_tokens :
    (earlier ++ fragment.tokens)[earlier.length + fragment.width]? = fragment.rest.head? := by
  rw [List.getElem?_append_right (Nat.le_add_right ..), Nat.add_sub_cancel_left, tokens_eq,
    List.getElem?_append_right (Nat.le_of_eq fragment.width_eq.symm), width_eq, Nat.sub_self,
    List.head?_eq_getElem?]

/-- What is read before the unmet slot. -/
theorem take_append_tokens :
    (earlier ++ fragment.tokens).take (earlier.length + fragment.width) =
      earlier ++ fragment.first :: fragment.taken := by
  rw [List.take_length_add_append, tokens_eq, width_eq, List.take_left]

end Fragment

/-- Every list of tokens is cut into sentences, unless a fragment is left over. -/
theorem exists_cut (tokens : List Token) :
    (∃ sentences, Sentence.spans sentences = tokens) ∨
      ∃ sentences, ∃ fragment : Fragment,
        Sentence.spans sentences ++ fragment.tokens = tokens := by
  induction length : tokens.length using Nat.strongRecOn generalizing tokens with
  | ind count ih =>
    cases tokens with
    | nil => exact .inl ⟨[], rfl⟩
    | cons first following =>
      rcases Slot.filled_or_unmet first.slots following with ⟨operands, rest, rfl, filled⟩ |
        ⟨before, slot, others, taken, rest, slots, rfl, filled, unmet⟩
      · have shorter : rest.length < count := by
          simp only [List.length_cons, List.length_append] at length
          omega
        let sentence : Sentence := ⟨first, operands, filled⟩
        rcases ih rest.length shorter rest rfl with ⟨sentences, rfl⟩ | ⟨sentences, fragment, rfl⟩
        · exact .inl ⟨sentence :: sentences, rfl⟩
        · exact .inr ⟨sentence :: sentences, fragment,
            congrArg (first :: ·) (List.append_assoc ..)⟩
      · exact .inr ⟨[], ⟨first, before, slot, others, slots, taken, filled, rest, unmet⟩, rfl⟩

end Scl
