import Scl.Proofs.StatementStart

/-! # Which names are reported

The only slot that asks an oracle is the one of `display`, and it is the last of its rule. So a
sentence gives at most one warning and a fragment gives none: a parse reports the names that its
`display` statements show and that the oracle does not know, one for each of these statements, in
order, and it reports the same names whether it succeeds or fails later. The names are described by
the tokens around a statement start, without the slots that read them.
-/

namespace Scl

/-- The tokens at the start of a statement show a name that is not declared, and this is its
warning. -/
structure UndeclaredTarget (tokens : List Token) (declared : Oracle) (start : Nat)
    (warning : Warning) : Prop where
  spelled : ∃ first, tokens[start]? = some first ∧ Text.sameWord first.value "display" = true
  named : ∃ name, tokens[start + 1]? = some name ∧ name.kind = .identifier ∧
    name.value = warning.name
  unknown : declared warning.name = false
  position : warning.position = start + 1

namespace Token

/-- `display` is the word that has a slot for a declared name. -/
theorem slots_of_display {first : Token}
    (spelled : Text.sameWord first.value "display" = true) : first.slots = Rule.slots .display := by
  have found : Handler.lookup first.value = some (.rule .display) :=
    Handler.lookup_eq_rule_iff.mpr spelled
  rw [Token.slots, found]
  rfl

theorem display_of_declared_slot {first : Token} {slot : Slot} (member : slot ∈ first.slots)
    (declared : slot.shape = .declared) : Text.sameWord first.value "display" = true := by
  rw [Token.slots] at member
  cases found : Handler.lookup first.value with
  | none =>
    rw [found] at member
    cases member
  | some handler =>
    rw [found] at member
    cases handler with
    | placeholder => cases member
    | rule rule =>
      have only : ∀ rule : Rule, ∀ slot ∈ rule.slots, slot.shape = .declared → rule = .display := by
        intro rule
        cases rule <;> decide
      obtain rfl := only rule slot member declared
      exact Handler.lookup_eq_rule_iff.mp found

theorem not_declared_of_not_display {first : Token}
    (differs : Text.sameWord first.value "display" ≠ true) :
    ∀ slot ∈ first.slots, slot.shape ≠ .declared :=
  fun _ member declared => differs (display_of_declared_slot member declared)

end Token

namespace Slot

theorem mem_undeclared_iff {slot : Slot} {oracle : Option Oracle} {position : Nat} {token : Token}
    {warning : Warning} :
    warning ∈ slot.undeclared oracle position token ↔
      slot.shape = .declared ∧
        ∃ declared, oracle = some declared ∧ declared token.value = false ∧
          warning = { position, name := token.value } := by
  have asked : oracle.any (fun declared => !declared token.value) = true ↔
      ∃ declared, oracle = some declared ∧ declared token.value = false := by
    cases oracle <;> simp
  rw [undeclared]
  constructor
  · intro member
    split at member
    · next reported =>
      obtain ⟨declared, consulted, unknown⟩ := asked.mp reported.2
      exact ⟨reported.1, declared, consulted, unknown, List.mem_singleton.mp member⟩
    · cases member
  · rintro ⟨shape, declared, consulted, unknown, rfl⟩
    rw [if_pos ⟨shape, asked.mpr ⟨declared, consulted, unknown⟩⟩]
    exact List.mem_singleton.mpr rfl

theorem undeclaredAll_eq_nil {oracle : Option Oracle} {position : Nat} {slots : List Slot}
    {tokens : List Token} (plain : ∀ slot ∈ slots, slot.shape ≠ .declared) :
    undeclaredAll oracle position slots tokens = [] := by
  induction slots generalizing position tokens with
  | nil => rfl
  | cons slot slots ih =>
    cases tokens with
    | nil => rfl
    | cons token tokens =>
      have here : slot.undeclared oracle position token = [] :=
        if_neg fun reported => plain slot (List.mem_cons_self ..) reported.1
      have later : undeclaredAll oracle (position + 1) slots tokens = [] :=
        ih fun other member => plain other (List.mem_cons_of_mem _ member)
      rw [undeclaredAll, here, later, List.nil_append]

end Slot

namespace Sentence

/-- A sentence that starts with `display` is this word and a name. -/
theorem operands_of_display (sentence : Sentence)
    (spelled : Text.sameWord sentence.first.value "display" = true) :
    ∃ name, sentence.operands = [name] ∧ name.kind = .identifier := by
  have filled := sentence.filled
  rw [Token.slots_of_display spelled] at filled
  generalize sentence.operands = operands at filled
  obtain _ | ⟨named, _ | _⟩ := filled
  exact ⟨_, rfl, beq_iff_eq.mp named⟩

/-- What a sentence reports is the name that it displays, if the oracle does not know it. -/
theorem mem_undeclaredAll_iff {sentence : Sentence} {oracle : Option Oracle} {position : Nat}
    {warning : Warning} :
    warning ∈ Slot.undeclaredAll oracle position sentence.first.slots sentence.operands ↔
      Text.sameWord sentence.first.value "display" = true ∧
        ∃ name declared, sentence.operands = [name] ∧ oracle = some declared ∧
          declared name.value = false ∧ warning = { position, name := name.value } := by
  by_cases spelled : Text.sameWord sentence.first.value "display" = true
  · obtain ⟨name, operands, _⟩ := sentence.operands_of_display spelled
    rw [Token.slots_of_display spelled, operands]
    simp [Rule.slots, Slot.undeclaredAll, Slot.mem_undeclared_iff, spelled]
  · have plain := Token.not_declared_of_not_display spelled
    simp [Slot.undeclaredAll_eq_nil plain, spelled]

/-- A sentence reports at most one name, and that one after its first token. -/
theorem length_undeclaredAll_le (sentence : Sentence) (oracle : Option Oracle) (position : Nat) :
    (Slot.undeclaredAll oracle position sentence.first.slots sentence.operands).length ≤ 1 := by
  by_cases spelled : Text.sameWord sentence.first.value "display" = true
  · obtain ⟨name, operands, _⟩ := sentence.operands_of_display spelled
    rw [Token.slots_of_display spelled, operands]
    simp only [Rule.slots, Slot.undeclaredAll, Slot.undeclared, List.append_nil]
    split
    · exact Nat.le_refl 1
    · exact Nat.zero_le 1
  · have plain := Token.not_declared_of_not_display spelled
    rw [Slot.undeclaredAll_eq_nil plain]
    exact Nat.zero_le 1

theorem position_of_mem_undeclaredAll {sentence : Sentence} {oracle : Option Oracle}
    {start : Nat} {warning : Warning}
    (member : warning ∈
      Slot.undeclaredAll oracle (start + 1) sentence.first.slots sentence.operands) :
    start < warning.position ∧ warning.position < start + sentence.span.length := by
  obtain ⟨_, name, _, operands, _, _, rfl⟩ := mem_undeclaredAll_iff.mp member
  rw [span, operands]
  simp

theorem warnings_bounds {sentences : List Sentence} {oracle : Option Oracle} {position : Nat} :
    ∀ warning ∈ warnings oracle position sentences,
      position < warning.position ∧ warning.position < position + (spans sentences).length := by
  rw [warnings_eq_collect]
  exact mem_collect_bounds fun _ _ _ => position_of_mem_undeclaredAll

theorem pairwise_warnings (sentences : List Sentence) (oracle : Option Oracle) (position : Nat) :
    (warnings oracle position sentences).Pairwise
      fun earlier later => earlier.position < later.position := by
  rw [warnings_eq_collect]
  refine pairwise_collect (fun _ _ _ => position_of_mem_undeclaredAll) fun start sentence => ?_
  have single := sentence.length_undeclaredAll_le oracle (start + 1)
  match Slot.undeclaredAll oracle (start + 1) sentence.first.slots sentence.operands, single with
  | [], _ => exact .nil
  | [_], _ => exact List.pairwise_singleton ..

end Sentence

/-- A fragment reports nothing: the slot for a declared name is the last of its rule. -/
theorem Fragment.warnings_eq_nil (fragment : Fragment) (oracle : Option Oracle) (position : Nat) :
    fragment.warnings oracle position = [] := by
  refine Slot.undeclaredAll_eq_nil fun slot member declared => ?_
  have inside : slot ∈ fragment.first.slots := by
    rw [fragment.slots_eq]
    exact List.mem_append_left _ member
  have spelled := Token.display_of_declared_slot inside declared
  have slots := fragment.slots_eq
  rw [Token.slots_of_display spelled] at slots
  have lengths := congrArg List.length slots
  have filled := List.length_pos_of_mem member
  simp only [Rule.slots, List.length_append, List.length_cons, List.length_nil] at lengths
  omega

open Sentence

section Cut

variable {sentences : List Sentence} {tail : List Token} {oracle : Option Oracle}
  {warning : Warning}

/-- The tokens where a sentence of a cut starts are those of the sentence. -/
theorem Sentence.getElem?_spans_append (earlier later : List Sentence) (tail : List Token)
    (sentence : Sentence) {index : Nat} (inside : index < sentence.span.length) :
    (spans (earlier ++ sentence :: later) ++ tail)[(spans earlier).length + index]? =
      sentence.span[index]? := by
  have regroup : spans (earlier ++ sentence :: later) ++ tail =
      spans earlier ++ (sentence.span ++ (spans later ++ tail)) := by
    rw [spans_append, spans_cons, span, List.append_assoc, List.cons_append, List.cons_append,
      List.append_assoc]
  rw [regroup, List.getElem?_append_right (Nat.le_add_right ..), Nat.add_sub_cancel_left,
    List.getElem?_append_left inside]

/-- The name that a sentence of a cut displays is the second of its tokens. -/
theorem Sentence.exists_displayed (earlier later : List Sentence) (tail : List Token)
    {sentence : Sentence} (spelled : Text.sameWord sentence.first.value "display" = true) :
    ∃ name, sentence.operands = [name] ∧ name.kind = .identifier ∧
      (spans (earlier ++ sentence :: later) ++ tail)[(spans earlier).length + 1]? = some name := by
  obtain ⟨name, operands, named⟩ := sentence.operands_of_display spelled
  have two : sentence.span = [sentence.first, name] := congrArg (sentence.first :: ·) operands
  have inside : 1 < sentence.span.length := by
    rw [two]
    exact Nat.one_lt_two
  have second := getElem?_spans_append earlier later tail sentence inside
  rw [two] at second
  exact ⟨name, operands, named, second⟩

/-- No sentence begins the rest of a cut, so in particular no `display` and its name do. -/
theorem Stuck.not_display (stuck : Stuck tail) {first name : Token} (head : tail[0]? = some first)
    (next : tail[1]? = some name) (named : name.kind = .identifier) :
    Text.sameWord first.value "display" = false := by
  refine Bool.eq_false_iff.mpr fun spelled => ?_
  obtain ⟨rest, rfl⟩ : ∃ rest, tail = first :: name :: rest := by
    match tail, head, next with
    | _ :: _ :: rest, head, next =>
      obtain rfl := Option.some.inj head
      obtain rfl := Option.some.inj next
      exact ⟨rest, rfl⟩
  have filled : Slot.Filled first.slots [name] := by
    rw [Token.slots_of_display spelled]
    exact .cons (beq_iff_eq.mpr named) .nil
  exact stuck ⟨first, [name], filled⟩ rest rfl

/-- The sentences of a cut report the undeclared names that follow a `display` at a statement
start. -/
theorem mem_warnings_iff_of_cut (stuck : Stuck tail) :
    warning ∈ warnings oracle 0 sentences ↔
      ∃ declared start, oracle = some declared ∧
        StatementStart (spans sentences ++ tail) start ∧
        UndeclaredTarget (spans sentences ++ tail) declared start warning := by
  rw [warnings_eq_collect, mem_collect_iff]
  simp only [statementStart_iff_of_cut stuck, Nat.zero_add, mem_undeclaredAll_iff]
  constructor
  · rintro ⟨earlier, sentence, later, rfl, spelled, name, declared, operands, consulted, unknown,
      rfl⟩
    obtain ⟨displayed, single, named, atName⟩ := exists_displayed earlier later tail spelled
    obtain rfl := List.head_eq_of_cons_eq (operands.symm.trans single)
    have atStart := getElem?_spans_append earlier later tail sentence (Nat.zero_lt_succ _)
    exact ⟨declared, _, consulted, ⟨earlier, sentence :: later, rfl, rfl, by simp⟩,
      ⟨⟨_, atStart, spelled⟩, ⟨name, atName, named, rfl⟩, unknown, rfl⟩⟩
  · rintro ⟨declared, _, consulted, ⟨earlier, later, rfl, rfl, more⟩,
      ⟨⟨first, atStart, spelled⟩, ⟨name, atName, named, same⟩, unknown, position⟩⟩
    cases later with
    | nil =>
      rw [List.append_nil, List.getElem?_append_right (Nat.le_refl _), Nat.sub_self] at atStart
      rw [List.append_nil, List.getElem?_append_right (Nat.le_add_right ..),
        Nat.add_sub_cancel_left] at atName
      rw [stuck.not_display atStart atName named] at spelled
      contradiction
    | cons sentence later =>
      have first_eq := getElem?_spans_append earlier later tail sentence (Nat.zero_lt_succ _)
      obtain rfl := Option.some.inj (first_eq.symm.trans atStart)
      obtain ⟨displayed, single, _, second⟩ := exists_displayed earlier later tail spelled
      obtain rfl := Option.some.inj (second.symm.trans atName)
      have reported : warning = ⟨(spans earlier).length + 1, displayed.value⟩ := by
        rw [← position, same]
      rw [← same] at unknown
      exact ⟨earlier, sentence, later, rfl, spelled, displayed, declared, single, consulted,
        unknown, reported⟩

/-- The warnings of a parse are those of the sentences of its cut, and an error stands after
them. -/
theorem exists_cut_warnings (tokens : List Token) (oracle : Option Oracle) :
    ∃ sentences tail, spans sentences ++ tail = tokens ∧ Stuck tail ∧
      parseWarnings tokens oracle = warnings oracle 0 sentences ∧
      ∀ error, parse tokens oracle = .error error → (spans sentences).length ≤ error.position := by
  rcases exists_cut tokens with ⟨sentences, rfl⟩ | ⟨sentences, fragment, rfl⟩
  · refine ⟨sentences, [], List.append_nil _, stuck_nil, parseWarnings_of_sentences .., ?_⟩
    intro error failure
    rw [parse_of_sentences] at failure
    contradiction
  · refine ⟨sentences, fragment.tokens, rfl, fragment.stuck, ?_, ?_⟩
    · rw [parseWarnings_of_fragment, fragment.warnings_eq_nil, List.append_nil]
    · intro error failure
      rw [parse_of_fragment] at failure
      obtain rfl := Except.error.inj failure
      exact Nat.le_add_right ..

end Cut

/-- A parse reports the undeclared names that `display` shows at the statement starts of its run:
all of these, each once and in order, and nothing else. Where a statement starts with another word,
nothing is reported before the next statement; nor is anything from the failing token on, or without
an oracle. -/
theorem parseWarnings_exact (tokens : List Token) (oracle : Option Oracle) :
    (∀ start, StatementStart tokens start ↔
      ∃ value handler, Event.statement start value handler ∈ parseTrace tokens oracle) ∧
    (parseWarnings tokens oracle).Pairwise
      (fun earlier later => earlier.position < later.position) ∧
    (∀ warning, warning ∈ parseWarnings tokens oracle ↔
      ∃ declared start, oracle = some declared ∧ StatementStart tokens start ∧
        UndeclaredTarget tokens declared start warning) ∧
    (∀ (start : Nat) first, tokens[start]? = some first →
      Text.sameWord first.value "display" = false →
      ∀ warning ∈ parseWarnings tokens oracle, start < warning.position →
      ∃ later, start < later ∧ later < warning.position ∧ StatementStart tokens later) ∧
    (∀ error, parse tokens oracle = .error error →
      ∀ warning ∈ parseWarnings tokens oracle, warning.position < error.position) ∧
    parseWarnings tokens none = [] := by
  obtain ⟨sentences, tail, rfl, stuck, reported, stops⟩ := exists_cut_warnings tokens oracle
  have targets (warning : Warning) : warning ∈ warnings oracle 0 sentences ↔ _ :=
    mem_warnings_iff_of_cut stuck
  rw [reported]
  refine ⟨fun start => statementStart_iff_traced _ oracle start, pairwise_warnings .., targets,
    ?_, ?_, ?_⟩
  · intro start first atStart differs warning member before
    obtain ⟨_, later, _, starts, target⟩ := (targets warning).mp member
    obtain ⟨word, atLater, spelled⟩ := target.spelled
    have position := target.position
    have other : later ≠ start := by
      rintro rfl
      obtain rfl := Option.some.inj (atLater.symm.trans atStart)
      rw [differs] at spelled
      contradiction
    exact ⟨later, by omega, by omega, starts⟩
  · intro error failure warning member
    have bound := (warnings_bounds warning member).2
    have stop := stops error failure
    omega
  · obtain ⟨others, _, _, _, silent, _⟩ := exists_cut_warnings (spans sentences ++ tail) none
    rw [silent, List.eq_nil_iff_forall_not_mem]
    intro warning member
    rw [warnings_eq_collect, mem_collect_iff] at member
    obtain ⟨_, sentence, _, _, here⟩ := member
    obtain ⟨_, _, _, _, unasked, _⟩ := mem_undeclaredAll_iff.mp here
    cases unasked

end Scl
