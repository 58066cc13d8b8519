import Scl.Proofs.Leaves

/-! # From trees back to programs

The trees of programs are described node by node. Each of them is the tree of the program that can
be read off its leaves, where a placeholder stands for its word. Programs with the same tree differ
in no more than the case of the words that the grammar fixes: what a tree does not keep of a token
is its kind and, unless the token is an operand or unknown, the case of its letters.
-/

namespace Scl

/-- The nodes that stand for statements. -/
inductive StatementNode : Tree → Prop where
  | define (name type : String) :
      StatementNode (.withLeaves "DefineStatement" ["define", name, "of", "type", type])
  | display (name : String) : StatementNode (.withLeaves "DisplayStatement" ["display", name])
  | set (name value : String) :
      StatementNode (.withLeaves "SetStatement" ["set", name, "=", value])
  | importModule (name : String) : StatementNode (.withLeaves "ImportStatement" ["import", name])
  | exit : StatementNode (.withLeaves "ExitStatement" ["exit"])
  | reserved {word : String} (member : word ∈ reservedWords) :
      StatementNode (.withLeaves (word ++ "Statement") ["Not implemented yet"])
  | unknown {value : String} (absent : Handler.lookup value = none) :
      StatementNode (.withLeaves "UnknownStatement" [value])

namespace Tree

/-- A tree whose root stands for a program and has statements below it. -/
structure IsProgram (tree : Tree) : Prop where
  label : tree.label = "Program"
  children : ∀ child ∈ tree.children, StatementNode child

/-- The reserved word that a node is named after. -/
def reservedWord? (node : Tree) : Option String :=
  reservedWords.find? fun word => word ++ "Statement" == node.label

/-- The kinds of the tokens of a statement: a name follows the keyword, and the type of a `define`
comes last. The grammar leaves the kind of the other tokens open. -/
def leafKinds (others : Token.Kind) : List Token.Kind :=
  [others, .identifier, others, others, .keyword]

/-- The tokens that a statement's node is made from, up to what the grammar leaves open: the word
of a placeholder, or else the leaves. -/
def statementTokens (others : Token.Kind) (node : Tree) : List Token :=
  match node.reservedWord? with
  | some word => [⟨others, word⟩]
  | none => List.zipWith Token.mk (leafKinds others) (node.children.map label)

/-- The tokens of a program, read off its tree. -/
def unparse (others : Token.Kind) (tree : Tree) : List Token :=
  tree.children.flatMap (statementTokens others)

theorem reservedWord?_of_mem : ∀ word ∈ reservedWords, ∀ children,
    (node (word ++ "Statement") children).reservedWord? = some word := by
  have found : ∀ word ∈ reservedWords,
      reservedWords.find? (fun other => other ++ "Statement" == word ++ "Statement") =
        some word := by
    decide
  exact fun word member _ => found word member

/-- No statement with a grammar and no unknown one is named like a placeholder. -/
theorem statementTokens_of_leaves {others : Token.Kind} {label : String} {leaves : List String}
    (unreserved : reservedWords.find? (fun word => word ++ "Statement" == label) = none) :
    (withLeaves label leaves).statementTokens others =
      List.zipWith Token.mk (leafKinds others) leaves := by
  have absent : (withLeaves label leaves).reservedWord? = none := unreserved
  have labels : (leaves.map leaf).map Tree.label = leaves := by
    rw [List.map_map]
    exact List.map_id' leaves
  rw [statementTokens, absent]
  simp only [withLeaves, children_node, labels]

theorem statementTokens_of_reserved {others : Token.Kind} {word : String}
    (member : word ∈ reservedWords) (children : List Tree) :
    (node (word ++ "Statement") children).statementTokens others = [⟨others, word⟩] := by
  rw [statementTokens, reservedWord?_of_mem word member]

end Tree

/-- The tokens read off the node of a statement are a statement with this node. -/
theorem StatementNode.statement {node : Tree} (shape : StatementNode node) (others : Token.Kind) :
    Statement (node.statementTokens others) node := by
  cases shape with
  | define name type =>
    rw [Tree.statementTokens_of_leaves (by decide)]
    exact .define (Text.sameWord_refl _) rfl (Text.sameWord_refl _) (Text.sameWord_refl _) rfl
  | display name =>
    rw [Tree.statementTokens_of_leaves (by decide)]
    exact .display (Text.sameWord_refl _) rfl
  | set name value =>
    rw [Tree.statementTokens_of_leaves (by decide)]
    exact .set (Text.sameWord_refl _) rfl (Text.sameWord_refl _)
  | importModule name =>
    rw [Tree.statementTokens_of_leaves (by decide)]
    exact .importModule (Text.sameWord_refl _) rfl
  | exit =>
    rw [Tree.statementTokens_of_leaves (by decide)]
    exact .exit (Text.sameWord_refl _)
  | reserved member =>
    rw [Tree.withLeaves, Tree.statementTokens_of_reserved member]
    exact .reserved member (Text.sameWord_refl _)
  | unknown absent =>
    rw [Tree.statementTokens_of_leaves (by decide)]
    exact .unknown (Handler.lookup_eq_none_iff.mp absent)

namespace Role

/-- What a tree keeps of a token. -/
def kept : Role → Token → String
  | .fixed, token => token.value.toLower
  | .reserved, token => token.value.toLower
  | .operand, token => token.value
  | .unknown, token => token.value

theorem sameWord_of_kept {role : Role} {token other : Token}
    (same : role.kept token = role.kept other) : Text.sameWord token.value other.value = true := by
  rw [Text.sameWord_iff_toLower]
  cases role with
  | fixed => exact same
  | reserved => exact same
  | operand => exact congrArg String.toLower same
  | unknown => exact congrArg String.toLower same

end Role

namespace Statement

variable {span : List Token} {node : Tree}

theorem shape (statement : Statement span node) : StatementNode node := by
  cases statement with
  | define => exact .define ..
  | display => exact .display ..
  | set => exact .set ..
  | importModule => exact .importModule ..
  | exit => exact .exit
  | reserved member => exact .reserved member
  | unknown unspelled => exact .unknown (Handler.lookup_eq_none_iff.mpr unspelled)

/-- What can be told of the tokens of a statement from its node. -/
structure Recovered (others : Token.Kind) (span : List Token) (node : Tree) : Prop where
  roles : Role.ofSpan (node.statementTokens others) = Role.ofSpan span
  values : (node.statementTokens others).map Token.value =
    List.zipWith Role.kept (Role.ofSpan span) span

theorem Recovered.of_tokens {others : Token.Kind} {tokens : List Token} {roles : List Role}
    (read : node.statementTokens others = tokens) (roles_eq : Role.ofSpan span = roles)
    (read_roles : Role.ofSpan tokens = roles)
    (values : tokens.map Token.value = List.zipWith Role.kept roles span) :
    Recovered others span node where
  roles := by rw [read, read_roles, roles_eq]
  values := by rw [read, values, roles_eq]

/-- A statement that is read off its leaves, the first of which is its keyword. -/
theorem Recovered.of_keyword {others : Token.Kind} {label word : String} {leaves : List String}
    {first : Token} {rest : List Token} (member : word ∈ keywords)
    (spelled : Text.sameWord first.value word = true)
    (unreserved : reservedWords.find? (fun other => other ++ "Statement" == label) = none)
    (values : (List.zipWith Token.mk (Tree.leafKinds others) (word :: leaves)).map Token.value =
      List.zipWith Role.kept (Role.ofWord word) (first :: rest)) :
    Recovered others (first :: rest) (.withLeaves label (word :: leaves)) :=
  .of_tokens (Tree.statementTokens_of_leaves unreserved) (Role.ofSpan_of_spelled member spelled)
    (Role.ofSpan_of_spelled member (Text.sameWord_refl word)) values

theorem recovered (statement : Statement span node) (others : Token.Kind) :
    Recovered others span node := by
  have lower {token : Token} {word : String} (spelled : Text.sameWord token.value word = true)
      (small : Text.foldAscii word = word.toList) : token.value.toLower = word :=
    Text.toLower_of_sameWord spelled small
  cases statement with
  | define spelled named ofSpelled typeSpelled typed =>
    refine .of_keyword (by decide) spelled (by decide) ?_
    simp [Role.ofWord, Role.kept, Tree.leafKinds, lower spelled (by decide),
      lower ofSpelled (by decide), lower typeSpelled (by decide)]
  | display spelled named =>
    refine .of_keyword (by decide) spelled (by decide) ?_
    simp [Role.ofWord, Role.kept, Tree.leafKinds, lower spelled (by decide)]
  | set spelled named signSpelled =>
    refine .of_keyword (by decide) spelled (by decide) ?_
    simp [Role.ofWord, Role.kept, Tree.leafKinds, lower spelled (by decide),
      lower signSpelled (by decide)]
  | importModule spelled named =>
    refine .of_keyword (by decide) spelled (by decide) ?_
    simp [Role.ofWord, Role.kept, Tree.leafKinds, lower spelled (by decide)]
  | exit spelled =>
    refine .of_keyword (by decide) spelled (by decide) ?_
    simp [Role.ofWord, Role.kept, Tree.leafKinds, lower spelled (by decide)]
  | @reserved first word member spelled =>
    have keyword : word ∈ keywords := List.mem_append_right _ member
    have small := Handler.foldAscii_of_mem_keywords word keyword
    refine .of_tokens (Tree.statementTokens_of_reserved member _)
      (Role.ofSpan_of_spelled keyword spelled)
      (Role.ofSpan_of_spelled keyword (Text.sameWord_refl word)) ?_
    simp [Role.ofWord_of_mem_reservedWords word member, Role.kept, lower spelled small]
  | unknown unspelled =>
    exact .of_tokens (Tree.statementTokens_of_leaves (by decide))
      (Role.ofSpan_of_unspelled unspelled) (Role.ofSpan_of_unspelled unspelled) rfl

variable {spans : List (List Token)} {nodes : List Tree}

theorem shapes_of_forall (statements : List.Forall₂ Statement spans nodes) :
    ∀ node ∈ nodes, StatementNode node := by
  induction statements with
  | nil => exact fun _ member => absurd member List.not_mem_nil
  | cons statement _ ih =>
    intro node member
    rcases List.mem_cons.mp member with rfl | later
    · exact statement.shape
    · exact ih node later

/-- The roles of the tokens of statements can be told from the nodes. -/
theorem roles_of_forall (statements : List.Forall₂ Statement spans nodes) (others : Token.Kind) :
    spans.flatMap Role.ofSpan =
      nodes.flatMap fun node => Role.ofSpan (node.statementTokens others) := by
  induction statements with
  | nil => rfl
  | cons statement _ ih =>
    rw [List.flatMap_cons, List.flatMap_cons, ih, (statement.recovered others).roles]

/-- What is kept of the tokens of statements can be told from the nodes. -/
theorem values_of_forall (statements : List.Forall₂ Statement spans nodes) (others : Token.Kind) :
    List.zipWith Role.kept (spans.flatMap Role.ofSpan) spans.flatten =
      (nodes.flatMap (Tree.statementTokens others)).map Token.value := by
  induction statements with
  | nil => rfl
  | cons statement _ ih =>
    rw [List.flatMap_cons, List.flatMap_cons, List.flatten_cons, List.map_append,
      List.zipWith_append statement.account.length_roles, ih, (statement.recovered others).values]

end Statement

namespace Tree.IsProgram

variable {tree : Tree}

def derivation (program : tree.IsProgram) (others : Token.Kind) :
    Derivation (tree.unparse others) where
  spans := tree.children.map (statementTokens others)
  nodes := tree.children
  statements := by
    rw [List.forall₂_map_left_iff, List.forall₂_same]
    exact fun child member => (program.children child member).statement others
  flatten_spans := List.flatMap_def.symm

theorem parse_unparse (program : tree.IsProgram) (others : Token.Kind) (oracle : Option Oracle) :
    parse (tree.unparse others) oracle = .ok tree := by
  have parsed := (program.derivation others).parse_eq oracle
  rw [parsed, ← program.label]
  exact congrArg Except.ok (node_label_children tree)

end Tree.IsProgram

example :
    (Tree.node "Program" [.withLeaves "DefineStatement" ["define", "of", "of", "type", "text"],
      .withLeaves "endStatement" ["Not implemented yet"],
      .withLeaves "UnknownStatement" ["endStatement"]]).unparse .symbol =
        [⟨.symbol, "define"⟩, ⟨.identifier, "of"⟩, ⟨.symbol, "of"⟩, ⟨.symbol, "type"⟩,
          ⟨.keyword, "text"⟩, ⟨.symbol, "end"⟩, ⟨.symbol, "endStatement"⟩] := by
  decide

/-- Every node of a derivation stands for a statement. -/
theorem Derivation.isProgram {tokens : List Token} (derivation : Derivation tokens) :
    (Tree.node "Program" derivation.nodes).IsProgram where
  label := rfl
  children := Statement.shapes_of_forall derivation.statements

/-- Two programs with the same nodes have the same roles and keep the same of every token. -/
theorem Derivation.alike {tokens respelled : List Token} (derivation : Derivation tokens)
    (other : Derivation respelled) (nodes : derivation.nodes = other.nodes) :
    derivation.roles = other.roles ∧
      List.zipWith Role.kept derivation.roles tokens =
        List.zipWith Role.kept other.roles respelled := by
  have left := derivation.statements
  have right := other.statements
  rw [nodes] at left
  refine ⟨?_, ?_⟩
  · rw [roles, roles, Statement.roles_of_forall left .unknown,
      Statement.roles_of_forall right .unknown]
  · have kept := Statement.values_of_forall left .unknown
    rw [← Statement.values_of_forall right .unknown, derivation.flatten_spans,
      other.flatten_spans] at kept
    exact kept

/-- What a tree keeps of a token is the same in all programs with this tree. -/
theorem Derivation.kept_eq {tokens respelled : List Token} (derivation : Derivation tokens)
    (other : Derivation respelled) (nodes : derivation.nodes = other.nodes) {index : Nat}
    {role : Role} {token final : Token} (played : derivation.roles[index]? = some role)
    (here : tokens[index]? = some token) (there : respelled[index]? = some final) :
    role.kept token = role.kept final := by
  obtain ⟨roles, same⟩ := derivation.alike other nodes
  have atIndex := congrArg (·[index]?) same
  rw [← roles] at atIndex
  simpa only [List.getElem?_zipWith, played, here, there, Option.some.injEq] using atIndex

/-- Every token has a role. -/
theorem Derivation.exists_role {tokens : List Token} (derivation : Derivation tokens) {index : Nat}
    {token : Token} (here : tokens[index]? = some token) :
    ∃ role, derivation.roles[index]? = some role := by
  have inside : index < derivation.roles.length := by
    rw [derivation.length_roles]
    exact (List.getElem?_eq_some_iff.mp here).1
  exact ⟨_, List.getElem?_eq_getElem inside⟩

/-- The trees of parses are the programs that are described node by node; such a tree is the parse
of the tokens that are read off it; and two lists of tokens with the same tree spell the same words,
in the same case wherever the tree keeps an operand or an unknown token. -/
theorem parse_unparse_iff (tree : Tree) (oracle : Option Oracle) :
    ((∃ tokens, parse tokens oracle = .ok tree) ↔ tree.IsProgram) ∧
    (tree.IsProgram → ∀ others, parse (tree.unparse others) oracle = .ok tree) ∧
    ∀ tokens respelled, parse tokens oracle = .ok tree → parse respelled oracle = .ok tree →
      tokens.length = respelled.length ∧
      ∀ (index : Nat) token other, tokens[index]? = some token → respelled[index]? = some other →
        Text.sameWord token.value other.value = true ∧
        ∀ derivation : Derivation tokens,
          derivation.roles[index]? = some .operand ∨ derivation.roles[index]? = some .unknown →
          token.value = other.value := by
  refine ⟨⟨?_, ?_⟩, fun program others => program.parse_unparse others oracle, ?_⟩
  · rintro ⟨tokens, success⟩
    obtain ⟨derivation⟩ := Derivation.nonempty_of_parse success
    rw [derivation.tree_eq success]
    exact derivation.isProgram
  · intro described
    exact ⟨_, described.parse_unparse .keyword oracle⟩
  · intro tokens respelled success otherSuccess
    obtain ⟨derivation⟩ := Derivation.nonempty_of_parse success
    obtain ⟨other⟩ := Derivation.nonempty_of_parse otherSuccess
    have nodes (derivation : Derivation tokens) : derivation.nodes = other.nodes :=
      (Tree.node.inj ((derivation.tree_eq success).symm.trans (other.tree_eq otherSuccess))).2
    constructor
    · have roles := (derivation.alike other (nodes derivation)).1
      rw [← derivation.length_roles, ← other.length_roles, roles]
    intro index token final here there
    constructor
    · obtain ⟨role, played⟩ := derivation.exists_role here
      exact Role.sameWord_of_kept (derivation.kept_eq other (nodes derivation) played here there)
    · rintro derivation (played | played)
      · exact derivation.kept_eq other (nodes derivation) played here there
      · exact derivation.kept_eq other (nodes derivation) played here there

end Scl
