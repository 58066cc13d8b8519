import Scl.Proofs.Keyword
import Scl.Proofs.Outcome

/-! # The programs that are accepted

The statements of the language are stated here shape by shape, with the node of each and without
the tables and actions that read them. A derivation is a list of tokens seen as statements. Parsing
succeeds on the tokens that have a derivation, and its tree is the one of that derivation, of which
there is only one.
-/

namespace Scl

/-- The statements, each with the node that stands for it. The first word alone decides which shape
it is, whatever the kind of its token; the operands may be spelled like keywords. -/
inductive Statement : List Token → Tree → Prop where
  | define {first name preposition noun type : Token}
      (spelled : Text.sameWord first.value "define" = true) (named : name.kind = .identifier)
      (ofSpelled : Text.sameWord preposition.value "of" = true)
      (typeSpelled : Text.sameWord noun.value "type" = true) (typed : type.kind = .keyword) :
      Statement [first, name, preposition, noun, type]
        (.withLeaves "DefineStatement" ["define", name.value, "of", "type", type.value])
  | display {first name : Token} (spelled : Text.sameWord first.value "display" = true)
      (named : name.kind = .identifier) :
      Statement [first, name] (.withLeaves "DisplayStatement" ["display", name.value])
  | set {first name sign value : Token} (spelled : Text.sameWord first.value "set" = true)
      (named : name.kind = .identifier) (signSpelled : Text.sameWord sign.value "=" = true) :
      Statement [first, name, sign, value]
        (.withLeaves "SetStatement" ["set", name.value, "=", value.value])
  | importModule {first name : Token} (spelled : Text.sameWord first.value "import" = true)
      (named : name.kind = .identifier) :
      Statement [first, name] (.withLeaves "ImportStatement" ["import", name.value])
  | exit {first : Token} (spelled : Text.sameWord first.value "exit" = true) :
      Statement [first] (.withLeaves "ExitStatement" ["exit"])
  | reserved {first : Token} {word : String} (member : word ∈ reservedWords)
      (spelled : Text.sameWord first.value word = true) :
      Statement [first] (.withLeaves (word ++ "Statement") ["Not implemented yet"])
  | unknown {first : Token}
      (unspelled : ∀ keyword ∈ keywords, Text.sameWord first.value keyword = false) :
      Statement [first] (.withLeaves "UnknownStatement" [first.value])

/-- Tokens as statements one after the other, and the nodes of these. -/
@[ext]
structure Derivation (tokens : List Token) where
  spans : List (List Token)
  nodes : List Tree
  statements : List.Forall₂ Statement spans nodes
  flatten_spans : spans.flatten = tokens

namespace Sentence

theorem exists_of_lookup {first : Token} {operands : List Token} {handler : Option Handler}
    (found : Handler.lookup first.value = handler)
    (filled : Slot.Filled (Handler.slots handler) operands) :
    ∃ sentence : Sentence, sentence.span = first :: operands ∧ sentence.node =
      Handler.node first.value
        (List.zipWith (fun slot token => slot.shape.label token) (Handler.slots handler) operands)
        handler := by
  subst found
  exact ⟨⟨first, operands, filled⟩, rfl, rfl⟩

theorem exists_of_rule {first : Token} {operands : List Token} (rule : Rule)
    (spelled : Text.sameWord first.value rule.keyword = true)
    (filled : Slot.Filled rule.slots operands) :
    ∃ sentence : Sentence, sentence.span = first :: operands ∧ sentence.node =
      rule.node (List.zipWith (fun slot token => slot.shape.label token) rule.slots operands) :=
  exists_of_lookup (Handler.lookup_eq_rule_iff.mpr spelled) filled

theorem exists_of_statement {span : List Token} {node : Tree} (statement : Statement span node) :
    ∃ sentence : Sentence, sentence.span = span ∧ sentence.node = node := by
  cases statement with
  | define spelled named ofSpelled typeSpelled typed =>
    exact exists_of_rule .define spelled (.cons (beq_iff_eq.mpr named)
      (.cons ofSpelled (.cons typeSpelled (.cons (beq_iff_eq.mpr typed) .nil))))
  | display spelled named =>
    exact exists_of_rule .display spelled (.cons (beq_iff_eq.mpr named) .nil)
  | set spelled named signSpelled =>
    exact exists_of_rule .set spelled
      (.cons (beq_iff_eq.mpr named) (.cons signSpelled (.cons rfl .nil)))
  | importModule spelled named =>
    exact exists_of_rule .importModule spelled (.cons (beq_iff_eq.mpr named) .nil)
  | exit spelled => exact exists_of_rule .exit spelled .nil
  | reserved member spelled =>
    exact exists_of_lookup (Handler.lookup_eq_placeholder_iff.mpr ⟨member, spelled⟩) .nil
  | unknown unspelled =>
    exact exists_of_lookup (Handler.lookup_eq_none_iff.mpr unspelled) .nil

/-- Filling the slots of a rule is what the shapes ask for. -/
theorem statement_of_rule {first : Token} {operands : List Token} (rule : Rule)
    (spelled : Text.sameWord first.value rule.keyword = true)
    (filled : Slot.Filled rule.slots operands) :
    Statement (first :: operands)
      (rule.node
        (List.zipWith (fun slot token => slot.shape.label token) rule.slots operands)) := by
  cases rule with
  | define =>
    obtain _ | ⟨named, _ | ⟨ofSpelled, _ | ⟨typeSpelled, _ | ⟨typed, _ | _⟩⟩⟩⟩ := filled
    exact .define spelled (beq_iff_eq.mp named) ofSpelled typeSpelled (beq_iff_eq.mp typed)
  | display =>
    obtain _ | ⟨named, _ | _⟩ := filled
    exact .display spelled (beq_iff_eq.mp named)
  | set =>
    obtain _ | ⟨named, _ | ⟨signSpelled, _ | ⟨_, _ | _⟩⟩⟩ := filled
    exact .set spelled (beq_iff_eq.mp named) signSpelled
  | importModule =>
    obtain _ | ⟨named, _ | _⟩ := filled
    exact .importModule spelled (beq_iff_eq.mp named)
  | exit =>
    cases filled
    exact .exit spelled

/-- A sentence is a statement, whichever handler its word has. -/
theorem statement (sentence : Sentence) : Statement sentence.span sentence.node := by
  obtain ⟨first, operands, filled⟩ := sentence
  rw [node, leaves, span]
  rw [Token.slots] at filled ⊢
  cases found : Handler.lookup first.value with
  | none =>
    rw [found] at filled
    cases filled
    exact .unknown (Handler.lookup_eq_none_iff.mp found)
  | some handler =>
    rw [found] at filled
    cases handler with
    | placeholder word =>
      obtain ⟨member, spelled⟩ := Handler.lookup_eq_placeholder_iff.mp found
      cases filled
      exact .reserved member spelled
    | rule rule =>
      exact statement_of_rule rule (Handler.lookup_eq_rule_iff.mp found) filled

end Sentence

namespace Derivation

open Sentence

variable {tokens : List Token}

def ofSentences (sentences : List Sentence) : Derivation (Sentence.spans sentences) where
  spans := sentences.map span
  nodes := sentences.map node
  statements := by
    rw [List.forall₂_map_left_iff, List.forall₂_map_right_iff, List.forall₂_same]
    exact fun sentence _ => sentence.statement
  flatten_spans := List.flatMap_def.symm

private theorem exists_sentences_of_forall {spans : List (List Token)} {nodes : List Tree}
    (statements : List.Forall₂ Statement spans nodes) :
    ∃ sentences : List Sentence, sentences.map span = spans ∧ sentences.map node = nodes := by
  induction statements with
  | nil => exact ⟨[], rfl, rfl⟩
  | cons statement _ ih =>
    obtain ⟨sentence, rfl, rfl⟩ := exists_of_statement statement
    obtain ⟨sentences, rfl, rfl⟩ := ih
    exact ⟨sentence :: sentences, rfl, rfl⟩

theorem exists_sentences (derivation : Derivation tokens) :
    ∃ sentences, Sentence.spans sentences = tokens ∧
      sentences.map span = derivation.spans ∧ sentences.map node = derivation.nodes := by
  obtain ⟨sentences, spans_eq, nodes_eq⟩ := exists_sentences_of_forall derivation.statements
  refine ⟨sentences, ?_, spans_eq, nodes_eq⟩
  rw [Sentence.spans, List.flatMap_def, spans_eq, derivation.flatten_spans]

end Derivation

/-- Parsing succeeds on the lists of statements and on nothing else, such a list is one in a single
way, and the tree has the nodes of its statements in order. -/
theorem parse_accepts_derivations (tokens : List Token) (oracle : Option Oracle) :
    ((∃ tree, parse tokens oracle = .ok tree) ↔ Nonempty (Derivation tokens)) ∧
      (∀ derivation other : Derivation tokens, derivation = other) ∧
      ∀ derivation : Derivation tokens,
        parse tokens oracle = .ok (.node "Program" derivation.nodes) := by
  have tree (derivation : Derivation tokens) :
      parse tokens oracle = .ok (.node "Program" derivation.nodes) := by
    obtain ⟨sentences, rfl, _, nodes⟩ := derivation.exists_sentences
    rw [parse_of_sentences, nodes]
  refine ⟨⟨?_, fun ⟨derivation⟩ => ⟨_, tree derivation⟩⟩, ?_, tree⟩
  · rintro ⟨accepted, success⟩
    rcases exists_cut tokens with ⟨sentences, rfl⟩ | ⟨sentences, fragment, rfl⟩
    · exact ⟨.ofSentences sentences⟩
    · rw [parse_of_fragment] at success
      contradiction
  · intro derivation other
    obtain ⟨sentences, cut, spans, nodes⟩ := derivation.exists_sentences
    obtain ⟨others, otherCut, otherSpans, otherNodes⟩ := other.exists_sentences
    obtain rfl := Sentence.spans_injective (cut.trans otherCut.symm)
    exact Derivation.ext (spans.symm.trans otherSpans) (nodes.symm.trans otherNodes)

end Scl
