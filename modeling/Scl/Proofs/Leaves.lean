import Scl.Proofs.Role

/-! # The leaves of a program

A program has one leaf for each of its tokens, in the order of the tokens. What is written at the
leaf depends on the role of the token in its statement alone. Only the empty program has a leaf
that belongs to no token, which is its root.
-/

namespace Scl

namespace Statement

variable {spans : List (List Token)} {nodes : List Tree}

theorem length_roles_of_forall (statements : List.Forall₂ Statement spans nodes) :
    (spans.flatMap Role.ofSpan).length = spans.flatten.length := by
  induction statements with
  | nil => rfl
  | cons statement _ ih =>
    rw [List.flatMap_cons, List.flatten_cons, List.length_append, List.length_append, ih,
      statement.account.length_roles]

/-- The leaves of statements are those of their tokens in their roles. -/
theorem frontier_of_forall (statements : List.Forall₂ Statement spans nodes) :
    nodes.flatMap Tree.frontier =
      List.zipWith Role.leaf (spans.flatMap Role.ofSpan) spans.flatten := by
  induction statements with
  | nil => rfl
  | @cons span node _ _ statement _ ih =>
    have account := statement.account
    rw [List.flatMap_cons, List.flatMap_cons, List.flatten_cons,
      List.zipWith_append account.length_roles, account.frontier, ih]

/-- A reserved word is a statement by itself, and the node at the place of this statement is named
after it. -/
theorem exists_reserved_of_forall (statements : List.Forall₂ Statement spans nodes) {index : Nat}
    {token : Token} (role : (spans.flatMap Role.ofSpan)[index]? = some .reserved)
    (here : spans.flatten[index]? = some token) :
    ∃ count, spans[count]? = some [token] ∧ (spans.take count).flatten.length = index ∧
      nodes[count]?.map Tree.label = some (token.value.toLower ++ "Statement") := by
  induction statements generalizing index with
  | nil => cases here
  | @cons span node spans nodes statement _ ih =>
    have account := statement.account
    rw [List.flatMap_cons] at role
    rw [List.flatten_cons] at here
    by_cases inside : index < span.length
    · rw [List.getElem?_append_left (account.length_roles ▸ inside)] at role
      rw [List.getElem?_append_left inside] at here
      obtain ⟨only, rfl, label⟩ := account.label (List.mem_of_getElem? role)
      obtain rfl : index = 0 := Nat.lt_one_iff.mp inside
      obtain rfl := Option.some.inj here
      exact ⟨0, rfl, rfl, congrArg some label⟩
    · have after := Nat.le_of_not_lt inside
      rw [List.getElem?_append_right (account.length_roles ▸ after), account.length_roles] at role
      rw [List.getElem?_append_right after] at here
      obtain ⟨count, single, width, label⟩ := ih role here
      refine ⟨count + 1, single, ?_, label⟩
      rw [List.take_succ_cons, List.flatten_cons, List.length_append, width]
      omega

end Statement

namespace Derivation

variable {tokens : List Token} (derivation : Derivation tokens)

theorem length_roles : derivation.roles.length = tokens.length := by
  rw [roles, Statement.length_roles_of_forall derivation.statements, derivation.flatten_spans]

/-- A program of one statement or more has the leaves of its tokens in their roles. -/
theorem leafLabels (nonempty : tokens ≠ []) :
    (Tree.node "Program" derivation.nodes).leafLabels =
      List.zipWith Role.leaf derivation.roles tokens := by
  have statements := derivation.statements
  have some_node : derivation.nodes ≠ [] := by
    intro none
    rw [none, List.forall₂_nil_right_iff] at statements
    have flat := derivation.flatten_spans
    rw [statements] at flat
    exact nonempty flat.symm
  rw [Tree.leafLabels_eq_frontier, Tree.frontier_node "Program" some_node,
    Statement.frontier_of_forall statements, derivation.flatten_spans, roles]

end Derivation

/-- The leaves of a program that is not empty are those of its tokens, one each and in order. Each
has the leaf of its role, and where a reserved word stands alone the node of this statement is named
after it. -/
theorem leafLabels_account {tokens : List Token} {oracle : Option Oracle} {tree : Tree}
    (success : parse tokens oracle = .ok tree) (nonempty : tokens ≠ []) :
    tree.leafLabels.length = tokens.length ∧ Nonempty (Derivation tokens) ∧
      ∀ derivation : Derivation tokens, derivation.roles.length = tokens.length ∧
        (∀ (index : Nat) role token, derivation.roles[index]? = some role →
          tokens[index]? = some token → tree.leafLabels[index]? = some (role.leaf token)) ∧
        ∀ (index : Nat) token, derivation.roles[index]? = some .reserved →
          tokens[index]? = some token →
          ∃ count, derivation.spans[count]? = some [token] ∧
            (derivation.spans.take count).flatten.length = index ∧
            tree.children[count]?.map Tree.label = some (token.value.toLower ++ "Statement") := by
  have leaves (derivation : Derivation tokens) :
      tree.leafLabels = List.zipWith Role.leaf derivation.roles tokens := by
    rw [derivation.tree_eq success, derivation.leafLabels nonempty]
  have derived := Derivation.nonempty_of_parse success
  refine ⟨?_, derived, fun derivation => ⟨derivation.length_roles, ?_, ?_⟩⟩
  · obtain ⟨derivation⟩ := derived
    rw [leaves derivation, List.length_zipWith, derivation.length_roles, Nat.min_self]
  · intro index role token played here
    rw [leaves derivation, List.getElem?_zipWith, played, here]
  · intro index token played here
    rw [derivation.tree_eq success]
    rw [← derivation.flatten_spans] at here
    exact Statement.exists_reserved_of_forall derivation.statements played here

/-- A keyword and a reserved word in capital letters, and an operand that is spelled like one. -/
theorem leafLabels_account_display_while :
    let tokens : List Token :=
      [⟨.keyword, "DISPLAY"⟩, ⟨.identifier, "Exit"⟩, ⟨.keyword, "WHILE"⟩]
    let tree : Tree := .node "Program"
      [.withLeaves "DisplayStatement" ["display", "Exit"],
        .withLeaves "whileStatement" ["Not implemented yet"]]
    parse tokens none = .ok tree ∧ tokens ≠ [] ∧ tree.leafLabels.length = 3 := by
  intro tokens tree
  have display : Statement [⟨.keyword, "DISPLAY"⟩, ⟨.identifier, "Exit"⟩]
      (.withLeaves "DisplayStatement" ["display", "Exit"]) := .display (by decide) rfl
  have word : "while" ∈ reservedWords := by decide
  have reserved : Statement [⟨.keyword, "WHILE"⟩]
      (.withLeaves "whileStatement" ["Not implemented yet"]) := .reserved word (by decide)
  let derivation : Derivation tokens :=
    { spans := [[⟨.keyword, "DISPLAY"⟩, ⟨.identifier, "Exit"⟩], [⟨.keyword, "WHILE"⟩]]
      nodes := tree.children
      statements := .cons display (.cons reserved .nil)
      flatten_spans := rfl }
  have success : parse tokens none = .ok tree := derivation.parse_eq none
  have nonempty : tokens ≠ [] := List.cons_ne_nil _ _
  exact ⟨success, nonempty, (leafLabels_account success nonempty).1⟩

end Scl
