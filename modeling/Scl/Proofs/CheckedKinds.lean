import Scl.Proofs.Alignment
import Scl.Session.Operation

/-! # Kinds matter only where they are asked for

A run looks at the kind of a token behind the first word of a statement with a name, and at the type
of a definition. Two programs with the same words whose kinds agree at these positions cannot be
told apart by their runs, also if the runs fail: all a session shows, up to the kinds of the tokens
themselves, is the same after each statement. At each of these positions the kind does matter, for
a number there ends the run.
-/

namespace Scl

/-- Tokens with one word, whatever their kinds. -/
def Token.SameValue (token other : Token) : Prop :=
  token.value = other.value

theorem Token.sameValues_iff {tokens others : List Token} :
    List.Forall₂ SameValue tokens others ↔ tokens.map value = others.map value := by
  rw [← List.forall₂_eq_eq_eq, List.forall₂_map_left_iff, List.forall₂_map_right_iff]
  rfl

/-- Sessions that differ in the kinds of their tokens only. -/
structure Session.SameValues (session other : Session) : Prop where
  passed : session.passed.map Token.value = other.passed.map Token.value
  rest : session.rest.map Token.value = other.rest.map Token.value
  position : session.position = other.position
  oracle : session.oracle = other.oracle
  found : session.found = other.found
  past : session.past = other.past

namespace Session.SameValues

variable {session other : Session}

theorem pass {token otherToken : Token} {rest otherRest : List Token}
    (same : session.SameValues other) (value : token.value = otherToken.value)
    (rests : rest.map Token.value = otherRest.map Token.value) :
    (session.pass token rest).SameValues (other.pass otherToken otherRest) where
  passed := by
    simp only [Session.pass, List.map_cons, value]
    exact congrArg _ same.passed
  rest := rests
  position := congrArg (· + 1) same.position
  oracle := same.oracle
  found := same.found
  past := by
    simp only [Session.pass, Session.note, value, same.position, same.past]

theorem check (same : session.SameValues other) (warning : Warning) :
    (session.check warning).SameValues (other.check warning) := by
  unfold Session.check
  rw [← same.oracle]
  split
  · exact { same with
      found := congrArg (warning :: ·) same.found
      past := congrArg (Event.undeclared warning :: ·) same.past }
  · exact same

/-- A slot looks at no more than the word of the token that it takes. -/
theorem take (same : session.SameValues other) (slot : Slot) :
    (session.take slot).SameValues (other.take slot) := by
  have rests := same.rest
  unfold Session.take
  cases here : session.rest with
  | nil =>
    rw [here] at rests
    rw [List.map_eq_nil_iff.mp rests.symm]
    exact same
  | cons token rest =>
    rw [here] at rests
    obtain ⟨otherToken, otherRest, otherHere, value, rests⟩ := List.map_eq_cons_iff.mp rests.symm
    rw [otherHere]
    have passed := same.pass value.symm rests.symm
    dsimp only
    split
    · rw [value, ← same.position]
      exact passed.check _
    · exact passed

theorem takeAll (same : session.SameValues other) (slots : List Slot) :
    (slots.foldl Session.take session).SameValues (slots.foldl Session.take other) := by
  induction slots generalizing session other with
  | nil => exact same
  | cons slot slots ih => exact ih (same.take slot)

theorem read {first otherFirst : Token} (same : session.SameValues other)
    (value : first.value = otherFirst.value) (slots : List Slot) :
    (session.read first slots).SameValues (other.read otherFirst slots) := by
  have noted : (session.note (.statement session.position first.value
        (Handler.lookup first.value))).SameValues
      (other.note (.statement other.position otherFirst.value
        (Handler.lookup otherFirst.value))) :=
    { same with past := by simp only [Session.note, value, same.position, same.past] }
  have tails : session.rest.tail.map Token.value = other.rest.tail.map Token.value := by
    rw [List.map_tail, List.map_tail, same.rest]
  exact (noted.pass value tails).takeAll slots

end Session.SameValues

section Aligned

variable {sentence other : Sentence} {sentences others : List Sentence}

theorem Token.slots_eq_of_sameValue {first other : Token} (same : first.SameValue other) :
    other.slots = first.slots := by
  rw [slots, slots, same]

/-- The leaves of a statement are made of words only. -/
theorem Slot.labels_eq_of_sameValue {tokens others : List Token} (slots : List Slot)
    (same : List.Forall₂ Token.SameValue tokens others) :
    List.zipWith (fun slot token => slot.shape.label token) slots tokens =
      List.zipWith (fun slot token => slot.shape.label token) slots others := by
  induction same generalizing slots with
  | nil => rfl
  | @cons token other tokens others value _ ih =>
    cases slots with
    | nil => rfl
    | cons slot slots =>
      have label : slot.shape.label token = slot.shape.label other := by
        cases shape : slot.shape <;> simp only [Shape.label] <;> exact value
      rw [List.zipWith_cons_cons, List.zipWith_cons_cons, label, ih]

theorem Sentence.Aligned.node_eq (aligned : sentence.Aligned Token.SameValue other) :
    sentence.node = other.node := by
  obtain ⟨first, operands, filled⟩ := sentence
  obtain ⟨otherFirst, otherOperands, otherFilled⟩ := other
  obtain _ | ⟨value, operandsSame⟩ := aligned
  have sameSlots := Token.slots_eq_of_sameValue value
  have sameLeaves := Slot.labels_eq_of_sameValue first.slots operandsSame
  have value : first.value = otherFirst.value := value
  simp only [node, leaves, sameSlots, sameLeaves, value]

/-- One statement after the other, the sessions stay the same but for kinds. -/
theorem Session.SameValues.readAll {session otherSession : Session}
    (same : session.SameValues otherSession)
    (aligned : List.Forall₂ (Sentence.Aligned Token.SameValue) sentences others) :
    (session.readAll sentences).SameValues (otherSession.readAll others) := by
  induction aligned generalizing session otherSession with
  | nil => exact same
  | @cons sentence other sentences others head _ ih =>
    have value : sentence.first.SameValue other.first := (List.forall₂_cons.mp head).1
    have read := same.read value sentence.first.slots
    refine ih ?_
    dsimp only
    rwa [Token.slots_eq_of_sameValue value]

theorem Fragment.Aligned.error_eq {fragment other : Fragment}
    (aligned : fragment.Aligned Token.SameValue other) {position otherPosition : Nat}
    (positions : position = otherPosition) :
    fragment.error position = other.error otherPosition := by
  have next : fragment.rest.head?.map Token.value = other.rest.head?.map Token.value := by
    rw [← List.head?_map, ← List.head?_map, Token.sameValues_iff.mp aligned.rest]
  rw [Fragment.error, Fragment.error, positions, aligned.width_eq, aligned.slot, next]

end Aligned

namespace Session

variable {tokens others : List Token}

theorem SameValues.start (values : tokens.map Token.value = others.map Token.value)
    (oracle : Option Oracle) : (start tokens oracle).SameValues (start others oracle) :=
  ⟨rfl, values, rfl, rfl, rfl, rfl⟩

/-- Runs on programs with the same words end alike if the kinds agree where they are asked for. -/
theorem program_sameValues (oracle : Option Oracle)
    (values : tokens.map Token.value = others.map Token.value) (kinds : KindsAgree tokens others) :
    ((start tokens oracle).step .program).1 = ((start others oracle).step .program).1 ∧
      ((start tokens oracle).step .program).2.SameValues
        ((start others oracle).step .program).2 := by
  have begun := SameValues.start values oracle
  have spells (token other : Token) (same : token.SameValue other) :
      Text.sameWord token.value other.value = true := by
    rw [same]
    exact Text.sameWord_refl _
  simp only [step, perform]
  rcases exists_cuts_aligned spells (Token.sameValues_iff.mpr values) kinds with
    ⟨sentences, otherSentences, rfl, rfl, aligned⟩ |
    ⟨sentences, otherSentences, fragment, other, rfl, rfl, aligned, fragments⟩
  · have nodes : sentences.map Sentence.node = otherSentences.map Sentence.node := by
      rw [← List.forall₂_eq_eq_eq, List.forall₂_map_left_iff, List.forall₂_map_right_iff]
      exact aligned.imp fun sentence other => Sentence.Aligned.node_eq
    rw [Parsing.program_of_sentences, Parsing.program_of_sentences, nodes]
    exact ⟨rfl, begun.readAll aligned⟩
  · have lengths := Sentence.length_spans_of_aligned aligned
    rw [Parsing.program_of_fragment, Parsing.program_of_fragment, fragments.error_eq lengths,
      fragments.before]
    exact ⟨rfl, (begun.readAll aligned).read fragments.first other.before⟩

/-- The kinds of the tokens show in a run only where it asks for them: at all other positions they
may be any, and the answer, the warnings, the cursor and the trace stay the same. -/
theorem program_observes_checked_kinds (oracle : Option Oracle)
    (values : tokens.map Token.value = others.map Token.value) (kinds : KindsAgree tokens others) :
    let run := (start tokens oracle).step .program
    let otherRun := (start others oracle).step .program
    run.1 = otherRun.1 ∧ run.2.warnings = otherRun.2.warnings ∧
      run.2.position = otherRun.2.position ∧ run.2.trace = otherRun.2.trace := by
  obtain ⟨answers, same⟩ := program_sameValues oracle values kinds
  refine ⟨answers, ?_, same.position, ?_⟩
  · rw [warnings, warnings, same.found]
  · rw [trace, trace, same.past]

/-- Neither the kinds of `display` and `set` show nor that of a token behind a failure. -/
theorem program_observes_checked_kinds_display_set :
    let tokens : List Token := [⟨.keyword, "display"⟩, ⟨.identifier, "x"⟩, ⟨.keyword, "set"⟩,
      ⟨.number, "7"⟩, ⟨.operator, "="⟩]
    let others : List Token := [⟨.string, "display"⟩, ⟨.identifier, "x"⟩, ⟨.unknown, "set"⟩,
      ⟨.number, "7"⟩, ⟨.symbol, "="⟩]
    let oracle : Option Oracle := some (.constant false)
    tokens.map Token.value = others.map Token.value ∧ KindsAgree tokens others ∧
      ((start tokens oracle).step .program).1 = ((start others oracle).step .program).1 ∧
      ((start tokens oracle).step .program).2.warnings =
        ((start others oracle).step .program).2.warnings := by
  intro tokens others oracle
  have values : tokens.map Token.value = others.map Token.value := rfl
  have kinds : KindsAgree tokens others := by
    intro position checked
    have operand : ∀ word ∈ ["x", "7", "="], ∀ keyword ∈ ["define", "display", "set", "import"],
        Text.sameWord word keyword = false := by
      decide
    -- Only the tokens at 0 and 2 spell a word behind which a name is asked for.
    cases checked with
    | @name start first following keyword starts here named spelled =>
      have inside : start < 5 := starts.inside
      have cases : start = 0 ∨ start = 2 ∨ start = 1 ∨ start = 3 ∨ start = 4 := by omega
      rcases cases with rfl | rfl | rfl | rfl | rfl
      · rfl
      · rfl
      all_goals
        obtain ⟨rfl, _⟩ := List.cons.inj here
        rw [operand _ (by decide) _ named] at spelled
        cases spelled
    | @type start first name preposition noun following starts here spelled =>
      have none : ∀ token ∈ tokens, Text.sameWord token.value "define" = false := by decide
      have member : first ∈ tokens.drop start := here ▸ List.mem_cons_self ..
      rw [none first (List.mem_of_mem_drop member)] at spelled
      cases spelled
  obtain ⟨answers, warnings, _⟩ := program_observes_checked_kinds oracle values kinds
  exact ⟨values, kinds, answers, warnings⟩

end Session

section Matters

open Sentence

variable {tokens : List Token} {position : Nat}

theorem StatementStart.exists_sentences (starts : StatementStart tokens position) :
    ∃ sentences, tokens = spans sentences ++ tokens.drop position ∧
      (spans sentences).length = position := by
  obtain ⟨inside, ⟨derivation⟩⟩ := starts
  obtain ⟨sentences, cut, _⟩ := derivation.exists_sentences
  refine ⟨sentences, ?_, ?_⟩
  · rw [cut, List.take_append_drop]
  · rw [cut, List.length_take, Nat.min_eq_left (Nat.le_of_lt inside)]

/-- A checked position is that of a slot that looks at the kind, behind slots that are filled. -/
theorem KindChecked.exists_slot (checked : KindChecked tokens position) :
    ∃ sentences first before slot others taken rest,
      tokens = spans sentences ++ first :: (taken ++ rest) ∧
        first.slots = before ++ slot :: others ∧ Slot.Filled before taken ∧
        slot.checksKind = true ∧ position = (spans sentences).length + (taken.length + 1) := by
  cases checked with
  | @name start first following keyword starts here named spelled =>
    obtain ⟨sentences, cut, rfl⟩ := starts.exists_sentences
    rw [here] at cut
    have rules : ∃ rule : Rule, ∃ slot others,
        rule.keyword = keyword ∧ rule.slots = slot :: others ∧ slot.checksKind = true := by
      simp only [List.mem_cons, List.not_mem_nil, or_false] at named
      rcases named with rfl | rfl | rfl | rfl
      · exact ⟨.define, _, _, rfl, rfl, rfl⟩
      · exact ⟨.display, _, _, rfl, rfl, rfl⟩
      · exact ⟨.set, _, _, rfl, rfl, rfl⟩
      · exact ⟨.importModule, _, _, rfl, rfl, rfl⟩
    obtain ⟨rule, slot, others, rfl, ruleSlots, checks⟩ := rules
    exact ⟨sentences, first, [], slot, others, [], following, cut,
      (Token.slots_eq_of_spelled spelled).trans ruleSlots, .nil, checks, rfl⟩
  | @type start first name preposition noun following starts here spelled named ofSpelled
      typeSpelled =>
    obtain ⟨sentences, cut, rfl⟩ := starts.exists_sentences
    rw [here] at cut
    have filled : Slot.Filled (Rule.define.slots.take 3) [name, preposition, noun] :=
      .cons (beq_iff_eq.mpr named) (.cons ofSpelled (.cons typeSpelled .nil))
    have define : first.slots = Rule.define.slots := Token.slots_eq_of_spelled spelled
    exact ⟨sentences, first, _, _, _, _, following, cut, define, filled, rfl, rfl⟩

/-- No slot asks for a number. -/
theorem Slot.not_admits_number {first token : Token} {slot : Slot} (member : slot ∈ first.slots)
    (checks : slot.checksKind = true) (number : token.kind = .number) :
    slot.shape.admits token = false := by
  obtain ⟨before, others, cut⟩ := List.append_of_mem member
  obtain ⟨rule, _, ruleSlots⟩ := Token.exists_rule_of_slots cut
  rw [← ruleSlots] at member
  have asked : ∀ rule ∈ Rule.all, ∀ slot ∈ rule.slots, slot.checksKind = true →
      slot.shape ∈ [.kind .identifier, .kind .keyword, .declared] := by
    decide
  have shapes := asked rule rule.mem_all slot member checks
  simp only [List.mem_cons, List.not_mem_nil, or_false] at shapes
  rcases shapes with shape | shape | shape <;> rw [shape] <;> simp [Shape.admits, number]

/-- At a checked position the kind does matter: with a number there, the run fails there. -/
theorem KindChecked.parse_set_number (checked : KindChecked tokens position)
    (inside : position < tokens.length) (value : String) (oracle : Option Oracle) :
    ∃ expected, parse (tokens.set position ⟨.number, value⟩) oracle =
      .error ⟨position, some value, expected⟩ := by
  obtain ⟨sentences, first, before, slot, others, taken, rest, rfl, slots, filled, checks, rfl⟩ :=
    checked.exists_slot
  cases rest with
  | nil =>
    simp only [List.length_append, List.length_cons, List.length_nil] at inside
    omega
  | cons token later =>
    have member : slot ∈ first.slots := slots ▸ List.mem_append_right _ (List.mem_cons_self ..)
    let fragment : Fragment :=
      ⟨first, before, slot, others, slots, taken, filled, ⟨.number, value⟩ :: later, by
        rintro _ ⟨⟩
        exact Slot.not_admits_number member checks rfl⟩
    have changed : (spans sentences ++ first :: (taken ++ token :: later)).set
        ((spans sentences).length + (taken.length + 1)) ⟨.number, value⟩ =
          spans sentences ++ fragment.tokens := by
      rw [List.set_append_right _ _ (Nat.le_add_right ..), Nat.add_sub_cancel_left,
        List.set_cons_succ, List.set_append_right _ _ (Nat.le_refl _), Nat.sub_self]
      rfl
    rw [changed, parse_of_fragment]
    refine ⟨slot.expected, ?_⟩
    rw [Fragment.error, Fragment.width, Nat.add_comm 1]
    rfl

end Matters

end Scl
