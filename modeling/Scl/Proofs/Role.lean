import Scl.Proofs.Acceptance
import Scl.Proofs.Tree.Preorder

/-! # What a token is in its statement

A token of a program is a word that the grammar fixes, an operand, a reserved word, or a token that
no statement starts with. The first word of a statement tells this for all of its tokens. The role
of a token decides what its leaf keeps of it, which is stated here statement by statement and
without the slots that read the token.
-/

namespace Scl

/-- What a token is in its statement. -/
inductive Role where
  /-- The keyword of a statement with a grammar, or `of`, `type` or `=` inside of it. -/
  | fixed
  /-- A name, a type or a value. -/
  | operand
  /-- The word of a statement without a grammar yet. -/
  | reserved
  /-- A token that no statement starts with. -/
  | unknown
  deriving DecidableEq, Repr

namespace Role

def leaf : Role → Token → String
  | .fixed, token => token.value.toLower
  | .reserved, _ => "Not implemented yet"
  | .operand, token => token.value
  | .unknown, token => token.value

/-- The roles in a statement whose first word, in small letters, is this one. -/
def ofWord : String → List Role
  | "define" => [.fixed, .operand, .fixed, .fixed, .operand]
  | "display" => [.fixed, .operand]
  | "set" => [.fixed, .operand, .fixed, .operand]
  | "import" => [.fixed, .operand]
  | "exit" => [.fixed]
  | word => if word ∈ reservedWords then [.reserved] else [.unknown]

def ofSpan : List Token → List Role
  | [] => []
  | first :: _ => ofWord first.value.toLower

theorem ofWord_of_mem_reservedWords : ∀ word ∈ reservedWords, ofWord word = [.reserved] := by
  decide

theorem ofWord_of_not_mem_keywords {word : String} (other : word ∉ keywords) :
    ofWord word = [.unknown] := by
  unfold ofWord
  split
  · exact absurd (by decide) other
  · exact absurd (by decide) other
  · exact absurd (by decide) other
  · exact absurd (by decide) other
  · exact absurd (by decide) other
  · exact if_neg fun member => other (List.mem_append_right _ member)

section Span

variable {first : Token} {rest : List Token}

theorem ofSpan_of_spelled {keyword : String} (member : keyword ∈ keywords)
    (spelled : Text.sameWord first.value keyword = true) :
    ofSpan (first :: rest) = ofWord keyword := by
  rw [ofSpan, Text.toLower_of_sameWord spelled (Handler.foldAscii_of_mem_keywords keyword member)]

theorem ofSpan_of_unspelled
    (unspelled : ∀ keyword ∈ keywords, Text.sameWord first.value keyword = false) :
    ofSpan (first :: rest) = [.unknown] := by
  refine ofWord_of_not_mem_keywords fun member => ?_
  have small := Text.toLower_eq_self (Handler.foldAscii_of_mem_keywords _ member)
  have spelled := Text.sameWord_iff_toLower.mpr small.symm
  rw [unspelled _ member] at spelled
  contradiction

end Span

end Role

/-- The parts of a statement account for each other: every token has one role, the leaves are those
of the tokens in their roles, and the node over a reserved word is named after it. -/
structure Statement.Account (span : List Token) (node : Tree) : Prop where
  length_roles : (Role.ofSpan span).length = span.length
  frontier : node.frontier = List.zipWith Role.leaf (Role.ofSpan span) span
  label : Role.reserved ∈ Role.ofSpan span →
    ∃ token, span = [token] ∧ node.label = token.value.toLower ++ "Statement"

namespace Statement

variable {span : List Token} {node : Tree}

/-- A node over leaves needs no more than the roles of its tokens. -/
theorem Account.withLeaves {roles : List Role} {label : String} {leaves : List String}
    (roles_eq : Role.ofSpan span = roles) (length : roles.length = span.length)
    (nonempty : leaves ≠ []) (leaves_eq : List.zipWith Role.leaf roles span = leaves)
    (label_eq : Role.reserved ∈ roles →
      ∃ token, span = [token] ∧ label = token.value.toLower ++ "Statement") :
    Account span (.withLeaves label leaves) where
  length_roles := by rw [roles_eq, length]
  frontier := by rw [roles_eq, leaves_eq, Tree.frontier_withLeaves label nonempty]
  label := by
    rw [roles_eq]
    exact label_eq

/-- A statement whose first leaf is its keyword. -/
theorem Account.of_keyword {label keyword : String} {leaves : List String} {first : Token}
    {rest : List Token} (member : keyword ∈ keywords)
    (spelled : Text.sameWord first.value keyword = true)
    (length : (Role.ofWord keyword).length = (first :: rest).length)
    (ruled : Role.reserved ∉ Role.ofWord keyword)
    (leaves_eq : List.zipWith Role.leaf (Role.ofWord keyword) (first :: rest) = keyword :: leaves) :
    Account (first :: rest) (.withLeaves label (keyword :: leaves)) :=
  .withLeaves (Role.ofSpan_of_spelled member spelled) length (List.cons_ne_nil _ _) leaves_eq
    fun reserved => absurd reserved ruled

/-- Every shape of statement accounts for its tokens. -/
theorem account (statement : Statement span node) : Account span node := by
  have lower {token : Token} {word : String} (spelled : Text.sameWord token.value word = true)
      (small : Text.foldAscii word = word.toList) : token.value.toLower = word :=
    Text.toLower_of_sameWord spelled small
  cases statement with
  | define spelled named ofSpelled typeSpelled typed =>
    refine .of_keyword (by decide) spelled rfl (by decide) ?_
    simp only [Role.ofWord, List.zipWith, Role.leaf, lower spelled (by decide),
      lower ofSpelled (by decide), lower typeSpelled (by decide)]
  | display spelled named =>
    refine .of_keyword (by decide) spelled rfl (by decide) ?_
    simp only [Role.ofWord, List.zipWith, Role.leaf, lower spelled (by decide)]
  | set spelled named signSpelled =>
    refine .of_keyword (by decide) spelled rfl (by decide) ?_
    simp only [Role.ofWord, List.zipWith, Role.leaf, lower spelled (by decide),
      lower signSpelled (by decide)]
  | importModule spelled named =>
    refine .of_keyword (by decide) spelled rfl (by decide) ?_
    simp only [Role.ofWord, List.zipWith, Role.leaf, lower spelled (by decide)]
  | exit spelled =>
    refine .of_keyword (by decide) spelled rfl (by decide) ?_
    simp only [Role.ofWord, List.zipWith, Role.leaf, lower spelled (by decide)]
  | @reserved first word member spelled =>
    have keyword : word ∈ keywords := List.mem_append_right _ member
    have roles : Role.ofSpan [first] = Role.ofWord word := Role.ofSpan_of_spelled keyword spelled
    rw [Role.ofWord_of_mem_reservedWords word member] at roles
    refine .withLeaves roles rfl (List.cons_ne_nil _ _) rfl fun _ => ⟨first, rfl, ?_⟩
    rw [lower spelled (Handler.foldAscii_of_mem_keywords word keyword)]
  | unknown unspelled =>
    exact .withLeaves (Role.ofSpan_of_unspelled unspelled) rfl (List.cons_ne_nil _ _) rfl (by simp)

end Statement

namespace Derivation

variable {tokens : List Token}

/-- The roles of all the tokens, statement by statement. -/
def roles (derivation : Derivation tokens) : List Role :=
  derivation.spans.flatMap Role.ofSpan

/-- The tokens of a derivation are parsed to its nodes. -/
theorem parse_eq (derivation : Derivation tokens) (oracle : Option Oracle) :
    parse tokens oracle = .ok (.node "Program" derivation.nodes) := by
  obtain ⟨sentences, rfl, _, nodes⟩ := derivation.exists_sentences
  rw [parse_of_sentences, nodes]

/-- The tree of a parse has the nodes of every derivation. -/
theorem tree_eq (derivation : Derivation tokens) {oracle : Option Oracle} {tree : Tree}
    (success : parse tokens oracle = .ok tree) : tree = .node "Program" derivation.nodes := by
  rw [derivation.parse_eq oracle] at success
  exact (Except.ok.inj success).symm

/-- What is parsed has a derivation. -/
theorem nonempty_of_parse {oracle : Option Oracle} {tree : Tree}
    (success : parse tokens oracle = .ok tree) : Nonempty (Derivation tokens) := by
  rcases exists_cut tokens with ⟨sentences, rfl⟩ | ⟨sentences, fragment, rfl⟩
  · exact ⟨.ofSentences sentences⟩
  · rw [parse_of_fragment] at success
    contradiction

end Derivation

end Scl
