import Scl.Proofs.Alignment
import Scl.Proofs.Role

/-! # Letter case does not change a parse

If the tokens of a program are spelled with other small and capital letters, the parse ends in the
same way: with a tree of the same shape, or with an error at the same place and with the same
sentence. What the tree and the error take from the tokens is the same but for the case of its
letters. What a leaf or a label takes from the grammar is the same altogether.
-/

namespace Scl

/-- Nodes of one statement, which may differ in the letter case of its operands. -/
inductive SameStatement : Tree → Tree → Prop where
  | define {name otherName type otherType : String}
      (names : Text.sameWord name otherName = true) (types : Text.sameWord type otherType = true) :
      SameStatement (.withLeaves "DefineStatement" ["define", name, "of", "type", type])
        (.withLeaves "DefineStatement" ["define", otherName, "of", "type", otherType])
  | display {name otherName : String} (names : Text.sameWord name otherName = true) :
      SameStatement (.withLeaves "DisplayStatement" ["display", name])
        (.withLeaves "DisplayStatement" ["display", otherName])
  | set {name otherName value otherValue : String} (names : Text.sameWord name otherName = true)
      (values : Text.sameWord value otherValue = true) :
      SameStatement (.withLeaves "SetStatement" ["set", name, "=", value])
        (.withLeaves "SetStatement" ["set", otherName, "=", otherValue])
  | importModule {name otherName : String} (names : Text.sameWord name otherName = true) :
      SameStatement (.withLeaves "ImportStatement" ["import", name])
        (.withLeaves "ImportStatement" ["import", otherName])
  | exit :
      SameStatement (.withLeaves "ExitStatement" ["exit"]) (.withLeaves "ExitStatement" ["exit"])
  | reserved {word : String} (member : word ∈ reservedWords) :
      SameStatement (.withLeaves (word ++ "Statement") ["Not implemented yet"])
        (.withLeaves (word ++ "Statement") ["Not implemented yet"])
  | unknown {value otherValue : String} (values : Text.sameWord value otherValue = true) :
      SameStatement (.withLeaves "UnknownStatement" [value])
        (.withLeaves "UnknownStatement" [otherValue])

/-- Trees of one shape, with the same word at every node, letter case aside. -/
inductive Tree.Respelled : Tree → Tree → Prop where
  | node {label otherLabel : String} {children others : List Tree}
      (labels : Text.sameWord label otherLabel = true)
      (subtrees : List.Forall₂ Respelled children others) :
      Respelled (.node label children) (.node otherLabel others)

/-- Errors of one slot, at tokens with the same word. -/
structure ParseError.Respelled (error other : ParseError) : Prop where
  position : error.position = other.position
  expected : error.expected = other.expected
  code : error.code = other.code
  found : error.found.map Text.foldAscii = other.found.map Text.foldAscii

/-- Tokens of the same kind and the same word, letter case aside. -/
structure Token.Respelled (token other : Token) : Prop where
  kind : token.kind = other.kind
  word : Text.sameWord token.value other.value = true

theorem Tree.respelled_withLeaves (label : String) {leaves others : List String}
    (same : List.Forall₂ (fun leaf other => Text.sameWord leaf other = true) leaves others) :
    (Tree.withLeaves label leaves).Respelled (.withLeaves label others) := by
  refine .node (Text.sameWord_refl label) ?_
  rw [List.forall₂_map_left_iff, List.forall₂_map_right_iff]
  exact same.imp fun leaf other spelled => .node spelled .nil

/-- The statements may differ in letter case only, so they have one shape. -/
theorem SameStatement.respelled {tree other : Tree} (same : SameStatement tree other) :
    tree.Respelled other := by
  have fixed := Text.sameWord_refl
  cases same with
  | define names types =>
    exact Tree.respelled_withLeaves _
      (.cons (fixed _) (.cons names (.cons (fixed _) (.cons (fixed _) (.cons types .nil)))))
  | display names => exact Tree.respelled_withLeaves _ (.cons (fixed _) (.cons names .nil))
  | set names values =>
    exact Tree.respelled_withLeaves _
      (.cons (fixed _) (.cons names (.cons (fixed _) (.cons values .nil))))
  | importModule names => exact Tree.respelled_withLeaves _ (.cons (fixed _) (.cons names .nil))
  | exit => exact Tree.respelled_withLeaves _ (.cons (fixed _) .nil)
  | reserved => exact Tree.respelled_withLeaves _ (.cons (fixed _) .nil)
  | unknown values => exact Tree.respelled_withLeaves _ (.cons values .nil)

section Aligned

/-- The leaf of a fixed word is the word of the grammar on both sides. -/
theorem SameStatement.of_rule {rule : Rule} {operands others : List Token}
    (filled : Slot.Filled rule.slots operands)
    (related : List.Forall₂ Token.Respelled operands others) :
    SameStatement
      (rule.node (List.zipWith (fun slot token => slot.shape.label token) rule.slots operands))
      (rule.node (List.zipWith (fun slot token => slot.shape.label token) rule.slots others)) := by
  cases rule with
  | define =>
    obtain _ | ⟨_, _ | ⟨_, _ | ⟨_, _ | ⟨_, _ | _⟩⟩⟩⟩ := filled
    obtain _ | ⟨name, _ | ⟨_, _ | ⟨_, _ | ⟨type, _ | _⟩⟩⟩⟩ := related
    exact .define name.word type.word
  | display =>
    obtain _ | ⟨_, _ | _⟩ := filled
    obtain _ | ⟨name, _ | _⟩ := related
    exact .display name.word
  | set =>
    obtain _ | ⟨_, _ | ⟨_, _ | ⟨_, _ | _⟩⟩⟩ := filled
    obtain _ | ⟨name, _ | ⟨_, _ | ⟨value, _ | _⟩⟩⟩ := related
    exact .set name.word value.word
  | importModule =>
    obtain _ | ⟨_, _ | _⟩ := filled
    obtain _ | ⟨name, _ | _⟩ := related
    exact .importModule name.word
  | exit =>
    cases filled
    cases related
    exact .exit

theorem Sentence.Aligned.sameStatement {sentence other : Sentence}
    (aligned : sentence.Aligned Token.Respelled other) :
    SameStatement sentence.node other.node := by
  obtain ⟨first, operands, filled⟩ := sentence
  obtain ⟨otherFirst, others, otherFilled⟩ := other
  obtain _ | ⟨firsts, operandsRelated⟩ := aligned
  have sameHandler := Handler.lookup_eq_of_sameWord firsts.word
  rw [node, node, leaves, leaves, Token.slots, Token.slots, ← sameHandler]
  rw [Token.slots] at filled
  cases found : Handler.lookup first.value with
  | none => exact .unknown firsts.word
  | some handler =>
    cases handler with
    | placeholder word => exact .reserved (Handler.lookup_eq_placeholder_iff.mp found).1
    | rule rule =>
      rw [found] at filled
      exact .of_rule filled operandsRelated

theorem Fragment.Aligned.respelled {fragment other : Fragment}
    (aligned : fragment.Aligned Token.Respelled other) {position otherPosition : Nat}
    (positions : position = otherPosition) :
    (fragment.error position).Respelled (other.error otherPosition) := by
  have position_eq : (fragment.error position).position = (other.error otherPosition).position := by
    rw [position_error, position_error, positions, aligned.width_eq]
  have expected_eq := congrArg Slot.expected aligned.slot
  have next := aligned.rest
  cases rest : fragment.rest with
  | nil =>
    rw [rest] at next
    have otherRest := List.forall₂_nil_left_iff.mp next
    refine ⟨position_eq, expected_eq, ?_, ?_⟩
    · simp only [ParseError.code, found_error, rest, otherRest]
    · simp only [found_error, rest, otherRest]
  | cons token later =>
    rw [rest] at next
    obtain ⟨otherToken, otherLater, same, _, otherRest⟩ := List.forall₂_cons_left_iff.mp next
    refine ⟨position_eq, expected_eq, ?_, ?_⟩
    · simp only [ParseError.code, found_error, rest, otherRest, List.head?_cons, Option.map_some]
    · simp only [found_error, rest, otherRest, List.head?_cons, Option.map_some,
        Text.sameWord_iff.mp same.word]

end Aligned

/-- Parsing a program in other small and capital letters ends in the same way. -/
theorem parse_respelled {tokens others : List Token} (oracle otherOracle : Option Oracle)
    (respelled : List.Forall₂ Token.Respelled tokens others) :
    (∃ nodes otherNodes, parse tokens oracle = .ok (.node "Program" nodes) ∧
      parse others otherOracle = .ok (.node "Program" otherNodes) ∧
      (Tree.node "Program" nodes).Respelled (.node "Program" otherNodes) ∧
      List.Forall₂ SameStatement nodes otherNodes) ∨
    ∃ error otherError, parse tokens oracle = .error error ∧
      parse others otherOracle = .error otherError ∧ error.Respelled otherError := by
  have spells (token other : Token) (same : token.Respelled other) := same.word
  have agree : KindsAgree tokens others := by
    apply KindsAgree.of_map_eq
    rw [← List.forall₂_eq_eq_eq, List.forall₂_map_left_iff, List.forall₂_map_right_iff]
    exact respelled.imp fun token other same => same.kind
  rcases exists_cuts_aligned spells respelled agree with
    ⟨sentences, otherSentences, rfl, rfl, aligned⟩ |
    ⟨sentences, otherSentences, fragment, other, rfl, rfl, aligned, fragments⟩
  · have nodes : List.Forall₂ SameStatement (sentences.map Sentence.node)
        (otherSentences.map Sentence.node) := by
      rw [List.forall₂_map_left_iff, List.forall₂_map_right_iff]
      exact aligned.imp fun sentence other => Sentence.Aligned.sameStatement
    refine .inl ⟨_, _, parse_of_sentences .., parse_of_sentences .., ?_, nodes⟩
    exact .node (Text.sameWord_refl _) (nodes.imp fun tree other => SameStatement.respelled)
  · refine .inr ⟨_, _, parse_of_fragment .., parse_of_fragment .., fragments.respelled ?_⟩
    exact Sentence.length_spans_of_aligned aligned

/-- An assignment and a reserved word, in small and in capital letters. -/
theorem parse_respelled_set_while :
    let tokens : List Token := [⟨.keyword, "set"⟩, ⟨.identifier, "Size"⟩, ⟨.operator, "="⟩,
      ⟨.identifier, "size"⟩, ⟨.keyword, "while"⟩]
    let others : List Token := [⟨.keyword, "SET"⟩, ⟨.identifier, "siZe"⟩, ⟨.operator, "="⟩,
      ⟨.identifier, "SIZE"⟩, ⟨.keyword, "While"⟩]
    let nodes : List Tree := [.withLeaves "SetStatement" ["set", "Size", "=", "size"],
      .withLeaves "whileStatement" ["Not implemented yet"]]
    List.Forall₂ Token.Respelled tokens others ∧ parse tokens none = .ok (.node "Program" nodes) ∧
      ∃ otherNodes, parse others none = .ok (.node "Program" otherNodes) ∧
        List.Forall₂ SameStatement nodes otherNodes := by
  intro tokens others nodes
  have respelled : List.Forall₂ Token.Respelled tokens others :=
    .cons ⟨rfl, by decide⟩ (.cons ⟨rfl, by decide⟩ (.cons ⟨rfl, by decide⟩
      (.cons ⟨rfl, by decide⟩ (.cons ⟨rfl, by decide⟩ .nil))))
  have set : Statement (tokens.take 4) (.withLeaves "SetStatement" ["set", "Size", "=", "size"]) :=
    .set (by decide) rfl (by decide)
  have word : "while" ∈ reservedWords := by decide
  have reserved : Statement (tokens.drop 4)
      (.withLeaves "whileStatement" ["Not implemented yet"]) :=
    .reserved word (by decide)
  let derivation : Derivation tokens :=
    { spans := [tokens.take 4, tokens.drop 4]
      nodes
      statements := .cons set (.cons reserved .nil)
      flatten_spans := rfl }
  have success : parse tokens none = .ok (.node "Program" nodes) := derivation.parse_eq none
  refine ⟨respelled, success, ?_⟩
  rcases parse_respelled none none respelled with
    ⟨_, otherNodes, ran, otherRan, _, same⟩ | ⟨error, _, failed, _⟩
  · obtain rfl : nodes = _ := (Tree.node.inj (Except.ok.inj (success.symm.trans ran))).2
    exact ⟨otherNodes, otherRan, same⟩
  · rw [success] at failed
    cases failed

end Scl
