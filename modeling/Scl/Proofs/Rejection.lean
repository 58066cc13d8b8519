import Scl.Proofs.Acceptance

/-! # The programs that are rejected

Four words have operands. What each operand is and which sentence asks for it is stated here without
the slots that read it. Parsing fails on the tokens in which statements are followed by such a word
whose operands do not follow, and the error belongs to the first operand that is not met: its
place, the token there, and its sentence.
-/

namespace Scl

/-- What a word of a statement asks for, and the sentence for when that is missing. -/
structure Operand where
  Fits : Token → Prop
  sentence : String

namespace Operand

def ofKind (kind : Token.Kind) (sentence : String) : Operand :=
  ⟨fun token => token.kind = kind, sentence⟩

def ofWord (word : String) (sentence : String) : Operand :=
  ⟨fun token => Text.sameWord token.value word = true, sentence⟩

def any (sentence : String) : Operand :=
  ⟨fun _ => True, sentence⟩

/-- The words that have operands. -/
def table : List (String × List Operand) :=
  [("define",
    [ofKind .identifier "Expected identifier after 'define'.", ofWord "of" "Expected 'of'.",
      ofWord "type" "Expected 'type'.", ofKind .keyword "Expected type keyword."]),
    ("display", [ofKind .identifier "Expected identifier after 'display'."]),
    ("set",
      [ofKind .identifier "Expected identifier after 'set'.",
        ofWord "=" "Expected '=' after identifier.", any "Expected value after '='."]),
    ("import", [ofKind .identifier "Expected module name after 'import'."])]

/-- The token at the index is there and fits. -/
def MetAt (operand : Operand) (following : List Token) (index : Nat) : Prop :=
  ∃ token, following[index]? = some token ∧ operand.Fits token

/-- The tokens begin with one fitting token for each operand. -/
def AllMet (operands : List Operand) (following : List Token) : Prop :=
  ∀ (index : Nat) (operand : Operand), operands[index]? = some operand →
    operand.MetAt following index

/-- The operand at the index is the first that the tokens do not meet. -/
structure FirstUnmet (operands : List Operand) (following : List Token) (index : Nat)
    (operand : Operand) : Prop where
  at_index : operands[index]? = some operand
  unmet : ¬operand.MetAt following index
  met_before : ∀ earlier < index, ∀ other, operands[earlier]? = some other →
    other.MetAt following earlier

end Operand

/-- Statements, then a word with operands, and then tokens that do not begin with these. -/
structure Violation (tokens : List Token) where
  complete : List Token
  derivation : Derivation complete
  first : Token
  following : List Token
  split : complete ++ first :: following = tokens
  keyword : String
  operands : List Operand
  entry : (keyword, operands) ∈ Operand.table
  spelled : Text.sameWord first.value keyword = true
  violated : ¬Operand.AllMet operands following

/-- The error belongs to the first operand that is not met. It stands where that operand should, it
quotes the token there or the end of the tokens, and it has the sentence of that operand. -/
structure Violation.Report {tokens : List Token} (violation : Violation tokens) (index : Nat)
    (operand : Operand) (error : ParseError) : Prop where
  first : Operand.FirstUnmet violation.operands violation.following index operand
  position : error.position = violation.complete.length + 1 + index
  sentence : error.expected = operand.sentence
  found :
    (∃ token, tokens[error.position]? = some token ∧ error.found = some token.value ∧
        error.code = "P0001") ∨
      (error.position = tokens.length ∧ error.found = none ∧ error.code = "P0002")

/-- The operand that a slot reads. -/
def Slot.operand (slot : Slot) : Operand :=
  ⟨fun token => slot.shape.admits token = true, slot.expected⟩

/-- Only `exit` has no slots among the rules. -/
theorem Rule.slots_ne_nil_iff {rule : Rule} :
    rule.slots ≠ [] ↔ rule ∈ [define, display, set, importModule] := by
  cases rule <;> decide

namespace Operand

theorem table_eq :
    table = [Rule.define, .display, .set, .importModule].map fun rule =>
      (rule.keyword, rule.slots.map Slot.operand) := by
  have kinds (kind : Token.Kind) :
      (fun token : Token => (token.kind == kind) = true) = fun token => token.kind = kind :=
    funext fun _ => propext beq_iff_eq
  simp only [table, ofKind, ofWord, any, Rule.slots, Rule.keyword, Slot.operand, Slot.ofWord,
    Slot.Shape.admits, List.map_cons, List.map_nil, kinds]
  congr

/-- The words that have operands are the keywords of the rules that have slots. -/
theorem mem_table_iff {keyword : String} {operands : List Operand} :
    (keyword, operands) ∈ table ↔
      ∃ rule : Rule, rule.slots ≠ [] ∧ rule.keyword = keyword ∧
        rule.slots.map Slot.operand = operands := by
  simp only [table_eq, List.mem_map, Prod.mk.injEq, Rule.slots_ne_nil_iff]

section Slots

variable {slots before others : List Slot} {slot : Slot} {taken rest : List Token}
  {index : Nat} {operand : Operand}

theorem metAt_of_filled (filled : Slot.Filled slots taken)
    (at_index : (slots.map Slot.operand)[index]? = some operand) :
    operand.MetAt (taken ++ rest) index := by
  induction filled generalizing index with
  | nil => cases at_index
  | cons admitted _ ih =>
    cases index with
    | zero =>
      obtain rfl := Option.some.inj at_index
      exact ⟨_, rfl, admitted⟩
    | succ index => exact ih at_index

theorem firstUnmet_of_filled (filled : Slot.Filled before taken)
    (unmet : ∀ token ∈ rest.head?, slot.shape.admits token = false) :
    FirstUnmet ((before ++ slot :: others).map Slot.operand) (taken ++ rest) taken.length
      slot.operand := by
  rw [List.map_append, ← filled.length_eq, ← List.length_map Slot.operand]
  constructor
  · rw [List.getElem?_append_right (Nat.le_refl _), Nat.sub_self]
    rfl
  · rintro ⟨token, next, fits⟩
    rw [List.length_map, filled.length_eq, List.getElem?_append_right (Nat.le_refl _),
      Nat.sub_self, ← List.head?_eq_getElem?] at next
    exact Bool.false_ne_true ((unmet token next).symm.trans fits)
  · intro earlier inside other at_index
    rw [List.getElem?_append_left inside] at at_index
    exact metAt_of_filled filled at_index

theorem FirstUnmet.not_allMet {operands : List Operand} {following : List Token}
    (first : FirstUnmet operands following index operand) : ¬AllMet operands following :=
  fun met => first.unmet (met index operand first.at_index)

end Slots

end Operand

/-- The keyword of a rule asks for the slots of the rule. -/
theorem Token.slots_eq_of_spelled {first : Token} {rule : Rule}
    (spelled : Text.sameWord first.value rule.keyword = true) : first.slots = rule.slots := by
  rw [slots, Handler.lookup_eq_rule_iff.mpr spelled]
  rfl

/-- Only a rule has slots. -/
theorem Token.exists_rule_of_slots {first : Token} {before others : List Slot} {slot : Slot}
    (slots : first.slots = before ++ slot :: others) :
    ∃ rule : Rule, Text.sameWord first.value rule.keyword = true ∧ rule.slots = first.slots := by
  rw [Token.slots] at slots ⊢
  cases found : Handler.lookup first.value with
  | none =>
    rw [found] at slots
    simp [Handler.slots] at slots
  | some handler =>
    rw [found] at slots
    cases handler with
    | placeholder => simp [Handler.slots] at slots
    | rule rule => exact ⟨rule, Handler.lookup_eq_rule_iff.mp found, rfl⟩

namespace Fragment

variable (fragment : Fragment)

/-- A fragment starts with the keyword of a rule. -/
theorem exists_rule :
    ∃ rule : Rule, Text.sameWord fragment.first.value rule.keyword = true ∧
      rule.slots = fragment.first.slots :=
  Token.exists_rule_of_slots fragment.slots_eq

theorem firstUnmet :
    Operand.FirstUnmet (fragment.first.slots.map Slot.operand) (fragment.taken ++ fragment.rest)
      fragment.taken.length fragment.slot.operand := by
  rw [fragment.slots_eq]
  exact Operand.firstUnmet_of_filled fragment.filled fragment.unmet

/-- The error quotes the token that does not fill the slot, or the end if there is none. -/
theorem quotes_error (earlier : List Token) :
    (∃ token, (earlier ++ fragment.tokens)[(fragment.error earlier.length).position]? = some token ∧
        (fragment.error earlier.length).found = some token.value ∧
        (fragment.error earlier.length).code = "P0001") ∨
      ((fragment.error earlier.length).position = (earlier ++ fragment.tokens).length ∧
        (fragment.error earlier.length).found = none ∧
        (fragment.error earlier.length).code = "P0002") := by
  have next := fragment.getElem?_append_tokens earlier
  simp only [position_error, found_error, ParseError.code]
  cases rest : fragment.rest with
  | nil =>
    right
    rw [List.length_append, fragment.length_tokens, rest]
    exact ⟨rfl, rfl, rfl⟩
  | cons token later =>
    left
    rw [rest] at next
    exact ⟨token, next, rfl, rfl⟩

end Fragment

namespace Violation

theorem nonempty_of_fragment (sentences : List Sentence) (fragment : Fragment) :
    Nonempty (Violation (Sentence.spans sentences ++ fragment.tokens)) := by
  obtain ⟨rule, spelled, slots⟩ := fragment.exists_rule
  have first := fragment.firstUnmet
  rw [← slots] at first
  have nonempty : rule.slots ≠ [] := by
    rw [slots, fragment.slots_eq]
    simp
  have entry : (rule.keyword, rule.slots.map Slot.operand) ∈ Operand.table :=
    Operand.mem_table_iff.mpr ⟨rule, nonempty, rfl, rfl⟩
  exact ⟨_, .ofSentences sentences, fragment.first, _, rfl, _, _, entry, spelled,
    first.not_allMet⟩

variable {tokens : List Token}

theorem exists_fragment (violation : Violation tokens) :
    ∃ sentences, ∃ fragment : Fragment, Sentence.spans sentences = violation.complete ∧
      Sentence.spans sentences ++ fragment.tokens = tokens ∧
      Operand.FirstUnmet violation.operands violation.following fragment.taken.length
        fragment.slot.operand := by
  obtain ⟨complete, derivation, first, following, rfl, keyword, operands, entry, spelled,
    violated⟩ := violation
  obtain ⟨sentences, rfl, _⟩ := derivation.exists_sentences
  obtain ⟨rule, _, rfl, rfl⟩ := Operand.mem_table_iff.mp entry
  have slots := Token.slots_eq_of_spelled spelled
  rcases Slot.filled_or_unmet rule.slots following with ⟨taken, rest, rfl, filled⟩ |
    ⟨before, slot, others, taken, rest, cut, rfl, filled, unmet⟩
  · exact absurd (fun _ _ => Operand.metAt_of_filled filled) violated
  · let fragment : Fragment :=
      ⟨first, before, slot, others, slots.trans cut, taken, filled, rest, unmet⟩
    have unmetFirst := fragment.firstUnmet
    rw [show fragment.first.slots = rule.slots from slots] at unmetFirst
    exact ⟨sentences, fragment, rfl, rfl, unmetFirst⟩

theorem exists_report (violation : Violation tokens) (oracle : Option Oracle) :
    ∃ index operand error,
      violation.Report index operand error ∧ parse tokens oracle = .error error := by
  obtain ⟨sentences, fragment, complete, rfl, first⟩ := violation.exists_fragment
  refine ⟨_, _, _, ⟨first, ?_, rfl, fragment.quotes_error _⟩, parse_of_fragment ..⟩
  simp only [Fragment.error, Fragment.width, complete, Nat.add_assoc]

end Violation

/-- Parsing fails on the violations and on nothing else, and the error is that of the first operand
that is not met. -/
theorem parse_rejects_violations (tokens : List Token) (oracle : Option Oracle) :
    ((∃ error, parse tokens oracle = .error error) ↔ Nonempty (Violation tokens)) ∧
      ∀ violation : Violation tokens, ∃ index operand error,
        violation.Report index operand error ∧ parse tokens oracle = .error error := by
  refine ⟨⟨?_, ?_⟩, fun violation => violation.exists_report oracle⟩
  · rintro ⟨error, failure⟩
    rcases exists_cut tokens with ⟨sentences, rfl⟩ | ⟨sentences, fragment, rfl⟩
    · rw [parse_of_sentences] at failure
      contradiction
    · exact Violation.nonempty_of_fragment sentences fragment
  · rintro ⟨violation⟩
    obtain ⟨_, _, error, _, failure⟩ := violation.exists_report oracle
    exact ⟨error, failure⟩

end Scl
