import Mathlib.Data.List.Chain
import Mathlib.Data.List.TakeWhile
import Scl.Proofs.Tree.Preorder

/-! # A tree is known by its walk

What a walk tells of a tree is a list of entries, a depth and a label for each node. The tree can
be grown again from it: entry by entry from the last to the first, each new node takes the deeper
trees behind it as its subtrees (`Tree.regrow`). Entries are those of a tree exactly when they start
at depth 0, do not come back to it, and never go down by more than one step (`IsOutline`); there is
then one such tree.
-/

namespace Scl

/-- Entries that start at depth 0, stay below it, and go down one step at a time. They may go up by
any number of steps. -/
structure IsOutline (entries : List (Nat × String)) : Prop where
  nonempty : entries ≠ []
  root : ∀ entry ∈ entries.head?, entry.1 = 0
  below : ∀ entry ∈ entries.tail, 1 ≤ entry.1
  steps : entries.IsChain fun entry next => next.1 ≤ entry.1 + 1

/-- A test that holds throughout the first part of a list, and not at the head of the second, parts
the list between them. -/
theorem takeWhile_dropWhile_append {α : Type} {test : α → Bool} {body rest : List α}
    (inside : ∀ item ∈ body, test item = true) (stop : ∀ item ∈ rest.head?, test item = false) :
    (body ++ rest).takeWhile test = body ∧ (body ++ rest).dropWhile test = rest := by
  rw [List.takeWhile_append_of_pos inside, List.dropWhile_append_of_pos inside]
  cases rest with
  | nil => exact ⟨List.append_nil body, rfl⟩
  | cons first others =>
    rw [List.takeWhile_cons, List.dropWhile_cons, stop first rfl]
    exact ⟨List.append_nil body, rfl⟩

namespace Tree

/-- Whether a tree, given with the depth of its root, is deeper than this. -/
def isBelow (depth : Nat) (grown : Nat × Tree) : Bool :=
  depth < grown.1

theorem isBelow_iff {depth : Nat} {grown : Nat × Tree} :
    isBelow depth grown = true ↔ depth < grown.1 :=
  decide_eq_true_iff

theorem not_isBelow_iff {depth : Nat} {grown : Nat × Tree} :
    isBelow depth grown = false ↔ grown.1 ≤ depth :=
  decide_eq_false_iff_not.trans Nat.not_lt

/-- Puts a node in front of trees. Those directly behind it that are deeper become its subtrees. -/
def plant (depth : Nat) (label : String) (forest : List (Nat × Tree)) : List (Nat × Tree) :=
  (depth, node label ((forest.takeWhile (isBelow depth)).map Prod.snd)) ::
    forest.dropWhile (isBelow depth)

/-- The trees that entries tell of, each with the depth of its root. -/
def regrow : List (Nat × String) → List (Nat × Tree)
  | [] => []
  | (depth, label) :: entries => plant depth label (regrow entries)

section Outline

variable {tree : Tree} {depth : Nat} {trees : List Tree}

theorem le_of_mem_outline : ∀ entry ∈ tree.outline depth, depth ≤ entry.1 := by
  induction tree using Tree.induction generalizing depth with
  | node label children ih =>
    intro entry member
    rw [outline_node] at member
    rcases List.mem_cons.mp member with rfl | inside
    · exact Nat.le_refl _
    · obtain ⟨child, among, inside⟩ := List.mem_flatMap.mp inside
      have deeper := ih child among entry inside
      omega

/-- Trees on one level begin with an entry of this level. -/
theorem depth_head?_outlines :
    ∀ entry ∈ (trees.flatMap (outline depth)).head?, entry.1 = depth := by
  cases trees with
  | nil => nofun
  | cons tree trees =>
    obtain ⟨label, children⟩ := tree
    intro entry first
    rw [List.flatMap_cons, outline_node] at first
    cases first
    rfl

/-- Between two trees on one level the walk goes up, or it stays on the level. -/
theorem isChain_outlines
    (steps : ∀ tree ∈ trees, (tree.outline depth).IsChain fun entry next => next.1 ≤ entry.1 + 1) :
    (trees.flatMap (outline depth)).IsChain fun entry next => next.1 ≤ entry.1 + 1 := by
  induction trees with
  | nil => exact List.isChain_nil
  | cons tree trees ih =>
    have later := ih fun other among => steps other (List.mem_cons_of_mem _ among)
    rw [List.flatMap_cons]
    refine (steps tree (List.mem_cons_self ..)).append later ?_
    intro entry last next first
    have deep := le_of_mem_outline entry (List.mem_of_mem_getLast? last)
    have level := depth_head?_outlines next first
    omega

/-- From a node the walk goes one step down to its first child. -/
theorem isChain_outline :
    (tree.outline depth).IsChain fun entry next => next.1 ≤ entry.1 + 1 := by
  induction tree using Tree.induction generalizing depth with
  | node label children ih =>
    have below : (children.flatMap (outline (depth + 1))).IsChain fun entry next =>
        next.1 ≤ entry.1 + 1 :=
      isChain_outlines fun child among => ih child among
    rw [outline_node]
    refine below.cons fun entry first => ?_
    rw [depth_head?_outlines entry first]

theorem isOutline_visit (tree : Tree) : IsOutline tree.visit := by
  rw [visit_eq_outline]
  refine ⟨?_, ?_, ?_, isChain_outline⟩
  all_goals
    obtain ⟨label, children⟩ := tree
    rw [outline_node]
  · exact List.cons_ne_nil _ _
  · intro entry first
    cases first
    rfl
  · intro entry member
    obtain ⟨child, _, inside⟩ := List.mem_flatMap.mp member
    exact le_of_mem_outline entry inside

end Outline

section Regrow

variable {entries later : List (Nat × String)} {depth : Nat} {label : String}
  {forest : List (Nat × Tree)}

theorem plant_children (children : List Tree) (outside : ∀ grown ∈ forest.head?, grown.1 ≤ depth) :
    plant depth label (children.map (Prod.mk (depth + 1)) ++ forest) =
      (depth, node label children) :: forest := by
  have inside : ∀ grown ∈ children.map (Prod.mk (depth + 1)), isBelow depth grown = true := by
    intro grown member
    obtain ⟨child, _, rfl⟩ := List.mem_map.mp member
    exact isBelow_iff.mpr (Nat.lt_succ_self depth)
  have stop : ∀ grown ∈ forest.head?, isBelow depth grown = false :=
    fun grown first => not_isBelow_iff.mpr (outside grown first)
  obtain ⟨taken, left⟩ := takeWhile_dropWhile_append inside stop
  have same : (children.map (Prod.mk (depth + 1))).map Prod.snd = children :=
    List.map_map.trans (List.map_id' children)
  rw [plant, taken, left, same]

theorem regrow_outlines {children : List Tree}
    (grows : ∀ child ∈ children, ∀ later : List (Nat × String),
      (∀ grown ∈ (regrow later).head?, grown.1 ≤ depth) →
        regrow (child.outline depth ++ later) = (depth, child) :: regrow later)
    (outside : ∀ grown ∈ (regrow later).head?, grown.1 ≤ depth) :
    regrow (children.flatMap (outline depth) ++ later) =
      children.map (Prod.mk depth) ++ regrow later := by
  induction children with
  | nil => rfl
  | cons child children ih =>
    have others := ih fun other among => grows other (List.mem_cons_of_mem _ among)
    have shallow : ∀ grown ∈ (regrow (children.flatMap (outline depth) ++ later)).head?,
        grown.1 ≤ depth := by
      rw [others]
      cases children with
      | nil => exact outside
      | cons next children =>
        intro grown first
        cases first
        exact Nat.le_refl _
    rw [List.flatMap_cons, List.append_assoc, grows child (List.mem_cons_self ..) _ shallow, others]
    rfl

/-- The outline of a tree is grown into this tree, in front of what no deeper entry follows. -/
theorem regrow_outline (tree : Tree) (outside : ∀ grown ∈ (regrow later).head?, grown.1 ≤ depth) :
    regrow (tree.outline depth ++ later) = (depth, tree) :: regrow later := by
  induction tree using Tree.induction generalizing depth later with
  | node label children ih =>
    have deeper : ∀ grown ∈ (regrow later).head?, grown.1 ≤ depth + 1 :=
      fun grown first => Nat.le_succ_of_le (outside grown first)
    have below := regrow_outlines (fun child among later => ih child among) deeper
    rw [outline_node, List.cons_append, regrow, below, plant_children children outside]

theorem regrow_visit (tree : Tree) : regrow tree.visit = [(0, tree)] := by
  have grown : regrow (tree.outline 0 ++ []) = (0, tree) :: regrow [] := regrow_outline tree nofun
  rwa [List.append_nil, ← visit_eq_outline] at grown

end Regrow

section Grown

variable {entries : List (Nat × String)} {depth : Nat} {label : String}
  {forest : List (Nat × Tree)}

/-- Trees that tell of the entries, none of them deeper than the tree before it. -/
structure Grown (entries : List (Nat × String)) (forest : List (Nat × Tree)) : Prop where
  told : forest.flatMap (fun grown => grown.2.outline grown.1) = entries
  rising : forest.Pairwise fun earlier later => later.1 ≤ earlier.1

/-- Rising trees are no deeper than the first entry. -/
theorem Grown.le_head (grown : Grown entries forest) {bound : Nat}
    (first : ∀ entry ∈ entries.head?, entry.1 ≤ bound) : ∀ tree ∈ forest, tree.1 ≤ bound := by
  obtain ⟨rfl, rising⟩ := grown
  cases forest with
  | nil => nofun
  | cons root others =>
    obtain ⟨level, name, children⟩ := root
    rw [List.flatMap_cons, outline_node] at first
    have bounded : level ≤ bound := first (level, name) rfl
    intro tree member
    rcases List.mem_cons.mp member with rfl | later
    · exact bounded
    · exact Nat.le_trans ((List.pairwise_cons.mp rising).1 tree later) bounded

/-- Behind the deeper of rising trees none is deeper. -/
theorem le_of_mem_dropWhile (rising : forest.Pairwise fun earlier later => later.1 ≤ earlier.1) :
    ∀ tree ∈ forest.dropWhile (isBelow depth), tree.1 ≤ depth := by
  induction forest with
  | nil => nofun
  | cons first others ih =>
    obtain ⟨highest, rising⟩ := List.pairwise_cons.mp rising
    intro tree member
    rw [List.dropWhile_cons] at member
    split at member
    · exact ih rising tree member
    · next stop =>
      have bound := not_isBelow_iff.mp (Bool.eq_false_iff.mpr stop)
      rcases List.mem_cons.mp member with rfl | later
      · exact bound
      · exact Nat.le_trans (highest tree later) bound

/-- A node in front of grown trees that are at most one step below it takes as subtrees those that
are exactly one step below it. -/
theorem Grown.plant (grown : Grown entries forest)
    (steps : ∀ entry ∈ entries.head?, entry.1 ≤ depth + 1) :
    Grown ((depth, label) :: entries) (plant depth label forest) := by
  have shallow := grown.le_head steps
  obtain ⟨rfl, rising⟩ := grown
  have level : ∀ tree ∈ forest.takeWhile (isBelow depth),
      tree.2.outline (depth + 1) = tree.2.outline tree.1 := by
    intro tree member
    have deeper := isBelow_iff.mp (List.mem_takeWhile_imp member)
    have bound := shallow tree ((List.takeWhile_prefix _).subset member)
    rw [Nat.le_antisymm bound deeper]
  have split : forest.takeWhile (isBelow depth) ++ forest.dropWhile (isBelow depth) = forest :=
    List.takeWhile_append_dropWhile
  refine ⟨?_, List.pairwise_cons.mpr ⟨le_of_mem_dropWhile rising, ?_⟩⟩
  · rw [Tree.plant, List.flatMap_cons, outline_node, List.flatMap_map, List.flatMap_congr level,
      List.cons_append, ← List.flatMap_append, split]
  · exact rising.sublist (List.dropWhile_sublist _)

theorem grown_regrow (steps : entries.IsChain fun entry next => next.1 ≤ entry.1 + 1) :
    Grown entries (regrow entries) := by
  induction entries with
  | nil => exact ⟨rfl, .nil⟩
  | cons entry entries ih =>
    obtain ⟨next, later⟩ := List.isChain_cons.mp steps
    exact (ih later).plant next

/-- Entries that do not come back to depth 0 tell of one tree. -/
theorem exists_regrow_eq (valid : IsOutline entries) :
    ∃ tree, regrow entries = [(0, tree)] ∧ tree.visit = entries := by
  have grown := grown_regrow valid.steps
  have shallow := grown.le_head fun entry first => Nat.le_of_eq (valid.root entry first)
  obtain ⟨told, _⟩ := grown
  match regrow entries, told, shallow with
  | [], told, _ => exact (valid.nonempty told.symm).elim
  | [(depth, tree)], told, shallow =>
    obtain rfl : depth = 0 := Nat.le_zero.mp (shallow _ (List.mem_cons_self ..))
    rw [List.flatMap_singleton] at told
    exact ⟨tree, rfl, (visit_eq_outline tree).trans told⟩
  | (depth, node label children) :: (level, node name inner) :: others, told, shallow =>
    -- The second tree would begin with an entry of depth 0 behind the first entry.
    obtain rfl : level = 0 := by
      refine Nat.le_zero.mp (shallow (level, node name inner) ?_)
      exact List.mem_cons_of_mem _ (List.mem_cons_self ..)
    have again : (0, name) ∈ entries.tail := by
      rw [← told, List.flatMap_cons, List.flatMap_cons, outline_node, outline_node]
      simp
    exact (Nat.not_succ_le_zero 0 (valid.below _ again)).elim

end Grown

/-- The lists that walks tell are those that start at depth 0, stay below it and go down by single
steps. Each of them is told by one tree only, so trees are the same when their walks are. -/
theorem visit_faithful :
    (∀ entries, (∃ tree : Tree, tree.visit = entries) ↔ IsOutline entries) ∧
    (∀ entries, (∃! tree : Tree, tree.visit = entries) ↔ IsOutline entries) ∧
    ∀ a b : Tree, a = b ↔ a.visit = b.visit := by
  have injective (a b : Tree) (same : a.visit = b.visit) : a = b := by
    have grown := regrow_visit a
    rw [same, regrow_visit b] at grown
    cases grown
    rfl
  have told (entries : List (Nat × String)) :
      (∃ tree : Tree, tree.visit = entries) ↔ IsOutline entries := by
    constructor
    · rintro ⟨tree, rfl⟩
      exact isOutline_visit tree
    · intro valid
      obtain ⟨tree, _, same⟩ := exists_regrow_eq valid
      exact ⟨tree, same⟩
  refine ⟨told, fun entries => ?_, fun a b => ⟨congrArg visit, injective a b⟩⟩
  rw [← told entries]
  constructor
  · rintro ⟨tree, same, _⟩
    exact ⟨tree, same⟩
  · rintro ⟨tree, rfl⟩
    exact ⟨tree, rfl, fun other same => injective other tree same⟩

end Tree

end Scl
