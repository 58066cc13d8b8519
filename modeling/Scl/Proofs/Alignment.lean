import Scl.Proofs.StatementStart

/-! # Programs with the same statements

Two programs are cut into statements at the same places if they have the same words, letter case
aside, and the same kinds wherever a kind is asked for. This is where a name stands behind its
keyword and where a definition has its type; no other kind is ever looked at. The relation between
the tokens is left open, as long as related tokens are spellings of one word.
-/

namespace Scl

def Slot.checksKind (slot : Slot) : Bool :=
  match slot.shape with
  | .kind _ | .declared => true
  | .word _ | .any => false

/-- The kind of a token matters for slots only that look at it, and its letter case for none. -/
theorem Slot.admits_eq {slot : Slot} {token other : Token}
    (spelled : Text.sameWord token.value other.value = true)
    (kinds : slot.checksKind = true → token.kind = other.kind) :
    slot.shape.admits token = slot.shape.admits other := by
  obtain ⟨shape, expected⟩ := slot
  cases shape with
  | kind wanted => simp only [Shape.admits, kinds rfl]
  | declared => simp only [Shape.admits, kinds rfl]
  | word spelling =>
    simp only [Shape.admits]
    rw [Bool.eq_iff_iff, Text.sameWord_iff, Text.sameWord_iff, Text.sameWord_iff.mp spelled]
  | any => rfl

/-- The positions at which a run asks for a kind: behind the first word of a statement that has a
name there, and where a definition has its type. There need not be a token at the position. -/
inductive KindChecked (tokens : List Token) : Nat → Prop where
  | name {start : Nat} {first : Token} {following : List Token} {keyword : String}
      (starts : StatementStart tokens start) (here : tokens.drop start = first :: following)
      (named : keyword ∈ ["define", "display", "set", "import"])
      (spelled : Text.sameWord first.value keyword = true) : KindChecked tokens (start + 1)
  | type {start : Nat} {first name preposition noun : Token} {following : List Token}
      (starts : StatementStart tokens start)
      (here : tokens.drop start = first :: name :: preposition :: noun :: following)
      (spelled : Text.sameWord first.value "define" = true) (named : name.kind = .identifier)
      (ofSpelled : Text.sameWord preposition.value "of" = true)
      (typeSpelled : Text.sameWord noun.value "type" = true) : KindChecked tokens (start + 4)

/-- Wherever a run on the first tokens asks for a kind, both have the same kind, or both end. -/
def KindsAgree (tokens others : List Token) : Prop :=
  ∀ position, KindChecked tokens position →
    tokens[position]?.map Token.kind = others[position]?.map Token.kind

/-- A rule asks for a kind in its first slot, and a definition also in its last. -/
theorem Rule.checksKind_iff : ∀ rule : Rule, ∀ index, ∀ slot ∈ rule.slots[index]?,
    slot.checksKind = true ↔
      (index = 0 ∧ rule.keyword ∈ ["define", "display", "set", "import"]) ∨
        (rule = .define ∧ index = 3) := by
  have checked : ∀ rule ∈ Rule.all, ∀ index < rule.slots.length, ∀ slot ∈ rule.slots[index]?,
      slot.checksKind = true ↔
        (index = 0 ∧ rule.keyword ∈ ["define", "display", "set", "import"]) ∨
          (rule = .define ∧ index = 3) := by
    decide
  intro rule index slot here
  have inside := (List.getElem?_eq_some_iff.mp here).1
  exact checked rule rule.mem_all index inside slot here

section Positions

open Sentence

variable {tokens : List Token} {position : Nat}

/-- Statements in front move the starts of statements. -/
theorem StatementStart.append_left (starts : StatementStart tokens position)
    (sentences : List Sentence) :
    StatementStart (spans sentences ++ tokens) ((spans sentences).length + position) := by
  obtain ⟨inside, ⟨derivation⟩⟩ := starts
  obtain ⟨others, cut, _⟩ := derivation.exists_sentences
  constructor
  · rw [List.length_append]
    omega
  · rw [List.take_length_add_append, ← cut, ← spans_append]
    exact ⟨.ofSentences _⟩

theorem KindChecked.append_left (checked : KindChecked tokens position)
    (sentences : List Sentence) :
    KindChecked (spans sentences ++ tokens) ((spans sentences).length + position) := by
  have drop (start : Nat) :
      (spans sentences ++ tokens).drop ((spans sentences).length + start) = tokens.drop start := by
    rw [List.drop_length_add_append]
  cases checked with
  | name starts here named spelled =>
    exact .name (starts.append_left sentences) ((drop _).trans here) named spelled
  | type starts here spelled named ofSpelled typeSpelled =>
    exact .type (starts.append_left sentences) ((drop _).trans here) spelled named ofSpelled
      typeSpelled

theorem statementStart_zero (first : Token) (following : List Token) :
    StatementStart (first :: following) 0 :=
  ⟨Nat.succ_pos _, ⟨.ofSentences []⟩⟩

/-- A slot that looks at a kind does so at a checked position, if the slots before it are filled. -/
theorem kindChecked_of_slot {first : Token} {before others : List Slot} {slot : Slot}
    {taken rest : List Token} (slots : first.slots = before ++ slot :: others)
    (filled : Slot.Filled before taken) (checks : slot.checksKind = true) :
    KindChecked (first :: (taken ++ rest)) (taken.length + 1) := by
  have starts := statementStart_zero first (taken ++ rest)
  obtain ⟨rule, spelled, ruleSlots⟩ := Token.exists_rule_of_slots slots
  rw [slots] at ruleSlots
  have here : rule.slots[before.length]? = some slot := by
    rw [ruleSlots, List.getElem?_append_right (Nat.le_refl _), Nat.sub_self]
    rfl
  rcases (rule.checksKind_iff _ slot here).mp checks with ⟨none, named⟩ | ⟨rfl, three⟩
  · obtain rfl := List.length_eq_zero_iff.mp none
    cases filled
    exact .name starts rfl named spelled
  · have cut : before = Rule.define.slots.take 3 := by
      rw [ruleSlots, ← three, List.take_left]
    subst cut
    obtain _ | ⟨named, _ | ⟨ofSpelled, _ | ⟨typeSpelled, _ | _⟩⟩⟩ := filled
    exact .type starts rfl spelled (beq_iff_eq.mp named) ofSpelled typeSpelled

end Positions

namespace KindsAgree

variable {first otherFirst : Token} {before others : List Slot} {slot : Slot}
  {taken otherTaken rest otherRest : List Token}

/-- Programs with the same kinds everywhere. -/
theorem of_map_eq {tokens others : List Token}
    (same : tokens.map Token.kind = others.map Token.kind) : KindsAgree tokens others := by
  intro position _
  rw [← List.getElem?_map, ← List.getElem?_map, same]

/-- The next tokens have the same kind where a slot looks at it. -/
theorem head_of_slot
    (agree : KindsAgree (first :: (taken ++ rest)) (otherFirst :: (otherTaken ++ otherRest)))
    (slots : first.slots = before ++ slot :: others) (filled : Slot.Filled before taken)
    (lengths : taken.length = otherTaken.length) (checks : slot.checksKind = true) :
    rest.head?.map Token.kind = otherRest.head?.map Token.kind := by
  have same := agree _ (kindChecked_of_slot slots filled checks)
  rw [List.getElem?_cons_succ, List.getElem?_cons_succ, List.getElem?_append_right (Nat.le_refl _),
    List.getElem?_append_right (Nat.le_of_eq lengths.symm), ← lengths, Nat.sub_self] at same
  rwa [List.head?_eq_getElem?, List.head?_eq_getElem?]

/-- What agrees behind statements of the same length agrees by itself. -/
theorem of_append {sentences otherSentences : List Sentence} {tokens others : List Token}
    (agree : KindsAgree (Sentence.spans sentences ++ tokens)
      (Sentence.spans otherSentences ++ others))
    (lengths : (Sentence.spans sentences).length = (Sentence.spans otherSentences).length) :
    KindsAgree tokens others := by
  intro position checked
  have same := agree _ (checked.append_left sentences)
  rw [List.getElem?_append_right (Nat.le_add_right ..), Nat.add_sub_cancel_left, lengths,
    List.getElem?_append_right (Nat.le_add_right ..), Nat.add_sub_cancel_left] at same
  exact same

end KindsAgree

section Aligned

open Sentence

variable {R : Token → Token → Prop}

/-- Sentences of related tokens. -/
def Sentence.Aligned (R : Token → Token → Prop) (sentence other : Sentence) : Prop :=
  List.Forall₂ R sentence.span other.span

theorem Sentence.length_spans_of_aligned {sentences others : List Sentence}
    (aligned : List.Forall₂ (Aligned R) sentences others) :
    (spans sentences).length = (spans others).length := by
  induction aligned with
  | nil => rfl
  | cons head _ ih =>
    rw [length_spans_cons, length_spans_cons, ih, head.length_eq]

/-- Fragments of related tokens, with the same slot that is not filled. -/
structure Fragment.Aligned (R : Token → Token → Prop) (fragment other : Fragment) : Prop where
  before : fragment.before = other.before
  slot : fragment.slot = other.slot
  first : R fragment.first other.first
  taken : List.Forall₂ R fragment.taken other.taken
  rest : List.Forall₂ R fragment.rest other.rest

theorem Fragment.Aligned.width_eq {fragment other : Fragment} (aligned : fragment.Aligned R other) :
    fragment.width = other.width := by
  rw [width, width, aligned.taken.length_eq]

/-- What is related to two lists in a row are two lists in a row. -/
theorem exists_append_of_related {tokens rest others : List Token}
    (related : List.Forall₂ R (tokens ++ rest) others) :
    ∃ front back, others = front ++ back ∧ List.Forall₂ R tokens front ∧
      List.Forall₂ R rest back := by
  have front := List.forall₂_take tokens.length related
  have back := List.forall₂_drop tokens.length related
  rw [List.take_left] at front
  rw [List.drop_left] at back
  exact ⟨_, _, (List.take_append_drop tokens.length others).symm, front, back⟩

variable (spells : ∀ token other, R token other → Text.sameWord token.value other.value = true)

include spells

/-- Slots filled by tokens are filled by those related to them. The slots before them are carried
along, because they tell that a checked kind is at a checked position. -/
theorem Slot.filled_of_agree {first otherFirst : Token} {before slots others : List Slot}
    {taken otherTaken operands otherOperands rest otherRest : List Token}
    (cut : first.slots = before ++ (slots ++ others)) (filledBefore : Filled before taken)
    (lengths : taken.length = otherTaken.length) (filled : Filled slots operands)
    (related : List.Forall₂ R operands otherOperands)
    (agree : KindsAgree (first :: (taken ++ (operands ++ rest)))
      (otherFirst :: (otherTaken ++ (otherOperands ++ otherRest)))) :
    Filled slots otherOperands := by
  induction filled generalizing before taken otherTaken otherOperands with
  | nil =>
    cases related
    exact .nil
  | @cons slot token slots operands admitted filled ih =>
    obtain _ | ⟨spelled, related⟩ := related
    rename_i other otherOperands
    have kinds (checks : slot.checksKind = true) : token.kind = other.kind :=
      Option.some.inj (agree.head_of_slot cut filledBefore lengths checks)
    refine .cons ?_ ?_
    · rwa [← Slot.admits_eq (spells _ _ spelled) kinds]
    · have cutAfter : first.slots = (before ++ [slot]) ++ (slots ++ others) := by
        rw [cut, List.append_assoc]
        rfl
      have filledAfter : Filled (before ++ [slot]) (taken ++ [token]) :=
        List.rel_append filledBefore (.cons admitted .nil)
      have lengthsAfter : (taken ++ [token]).length = (otherTaken ++ [other]).length := by
        rw [List.length_append, List.length_append, lengths]
        rfl
      have agreeAfter : KindsAgree (first :: ((taken ++ [token]) ++ (operands ++ rest)))
          (otherFirst :: ((otherTaken ++ [other]) ++ (otherOperands ++ otherRest))) := by
        rw [List.append_assoc, List.append_assoc]
        exact agree
      exact ih cutAfter filledAfter lengthsAfter related agreeAfter

theorem Token.slots_eq_of_related {first other : Token} (related : R first other) :
    other.slots = first.slots := by
  rw [slots, slots, Handler.lookup_eq_of_sameWord (spells _ _ related)]

/-- A sentence is aligned with a sentence in front of tokens related to its own. -/
theorem Sentence.exists_aligned (sentence : Sentence) {rest others : List Token}
    (related : List.Forall₂ R (sentence.span ++ rest) others)
    (agree : KindsAgree (sentence.span ++ rest) others) :
    ∃ other : Sentence, ∃ otherRest, others = other.span ++ otherRest ∧
      sentence.Aligned R other ∧ List.Forall₂ R rest otherRest := by
  obtain ⟨first, operands, filled⟩ := sentence
  obtain _ | ⟨firstRelated, related⟩ := related
  rename_i otherFirst following
  obtain ⟨otherOperands, otherRest, rfl, operandsRelated, restRelated⟩ :=
    exists_append_of_related related
  have whole : first.slots = [] ++ (first.slots ++ []) := by rw [List.append_nil, List.nil_append]
  have otherFilled : Slot.Filled first.slots otherOperands :=
    Slot.filled_of_agree spells whole .nil rfl filled operandsRelated agree
  rw [← Token.slots_eq_of_related spells firstRelated] at otherFilled
  exact ⟨⟨otherFirst, otherOperands, otherFilled⟩, otherRest, rfl,
    .cons firstRelated operandsRelated, restRelated⟩

/-- A fragment is aligned with a fragment of tokens related to its own. -/
theorem Fragment.exists_aligned (fragment : Fragment) {others : List Token}
    (related : List.Forall₂ R fragment.tokens others) (agree : KindsAgree fragment.tokens others) :
    ∃ other : Fragment, other.tokens = others ∧ fragment.Aligned R other := by
  obtain ⟨first, before, slot, later, slots, taken, filled, rest, unmet⟩ := fragment
  obtain _ | ⟨firstRelated, related⟩ := related
  rename_i otherFirst following
  obtain ⟨otherTaken, otherRest, rfl, takenRelated, restRelated⟩ :=
    exists_append_of_related related
  have otherFilled : Slot.Filled before otherTaken :=
    Slot.filled_of_agree spells slots .nil rfl filled takenRelated agree
  have kinds := agree.head_of_slot slots filled takenRelated.length_eq
  have otherUnmet : ∀ token ∈ otherRest.head?, slot.shape.admits token = false := by
    cases restRelated with
    | nil => simp
    | @cons token other rest otherRest spelled =>
      rintro _ ⟨⟩
      rw [← Slot.admits_eq (spells _ _ spelled) fun checks => Option.some.inj (kinds checks)]
      exact unmet token rfl
  have otherSlots := (Token.slots_eq_of_related spells firstRelated).trans slots
  exact ⟨⟨otherFirst, before, slot, later, otherSlots, otherTaken, otherFilled, otherRest,
    otherUnmet⟩, rfl, ⟨rfl, rfl, firstRelated, takenRelated, restRelated⟩⟩

/-- Sentences are aligned with sentences in front of related tokens, by induction on them. -/
theorem Sentence.exists_all_aligned (sentences : List Sentence) {tail others : List Token}
    (related : List.Forall₂ R (spans sentences ++ tail) others)
    (agree : KindsAgree (spans sentences ++ tail) others) :
    ∃ otherSentences otherTail, spans otherSentences ++ otherTail = others ∧
      List.Forall₂ (Aligned R) sentences otherSentences ∧ List.Forall₂ R tail otherTail ∧
      KindsAgree tail otherTail := by
  induction sentences generalizing others with
  | nil => exact ⟨[], others, rfl, .nil, related, agree⟩
  | cons sentence sentences ih =>
    have regroup : spans (sentence :: sentences) ++ tail =
        sentence.span ++ (spans sentences ++ tail) := by
      rw [spans_cons, span, List.cons_append, List.cons_append, List.append_assoc]
    rw [regroup] at related agree
    obtain ⟨other, rest, rfl, aligned, restRelated⟩ := sentence.exists_aligned spells related agree
    have restAgree : KindsAgree (spans sentences ++ tail) rest := by
      have single (sentence : Sentence) : spans [sentence] = sentence.span := by
        rw [spans_cons, spans_nil, List.append_nil, span]
      rw [← single, ← single] at agree
      refine agree.of_append ?_
      rw [single, single, aligned.length_eq]
    obtain ⟨otherSentences, otherTail, rfl, allAligned, tailRelated, tailAgree⟩ :=
      ih restRelated restAgree
    refine ⟨other :: otherSentences, otherTail, ?_, .cons aligned allAligned, tailRelated,
      tailAgree⟩
    rw [spans_cons, span, List.cons_append, List.cons_append, List.append_assoc]

/-- Programs of related tokens are cut alike. -/
theorem exists_cuts_aligned {tokens others : List Token} (related : List.Forall₂ R tokens others)
    (agree : KindsAgree tokens others) :
    (∃ sentences otherSentences, spans sentences = tokens ∧ spans otherSentences = others ∧
      List.Forall₂ (Aligned R) sentences otherSentences) ∨
    ∃ sentences otherSentences, ∃ fragment other : Fragment,
      spans sentences ++ fragment.tokens = tokens ∧ spans otherSentences ++ other.tokens = others ∧
      List.Forall₂ (Aligned R) sentences otherSentences ∧ fragment.Aligned R other := by
  rcases exists_cut tokens with ⟨sentences, rfl⟩ | ⟨sentences, fragment, rfl⟩
  · rw [← List.append_nil (spans sentences)] at related agree
    obtain ⟨otherSentences, otherTail, cut, aligned, tail, _⟩ :=
      exists_all_aligned spells sentences related agree
    cases tail
    exact .inl ⟨sentences, otherSentences, rfl, by rwa [List.append_nil] at cut, aligned⟩
  · obtain ⟨otherSentences, otherTail, cut, aligned, tail, tailAgree⟩ :=
      exists_all_aligned spells sentences related agree
    obtain ⟨other, rfl, fragments⟩ := fragment.exists_aligned spells tail tailAgree
    exact .inr ⟨sentences, otherSentences, fragment, other, rfl, cut, aligned, fragments⟩

end Aligned

end Scl
