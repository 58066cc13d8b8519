import Scl.Tree.Walk

/-! # A walk lists a tree in order

The walk keeps the subtrees of several levels at once. What it still has to tell is the listing of
these subtrees one after the other (`Walk.toList_eq`): visiting a node replaces its tree by its
children, which does not change the listing. The leaves of a tree are therefore those of its
subtrees, left to right, unless it is a leaf itself.
-/

namespace Scl

namespace Tree

mutual

/-- The nodes of a tree whose root has this depth: the root, and then the subtrees in order. -/
def preorder (depth : Nat) : Tree → List (Nat × Tree)
  | .node label children => (depth, .node label children) :: preorderList (depth + 1) children

def preorderList (depth : Nat) : List Tree → List (Nat × Tree)
  | [] => []
  | tree :: trees => tree.preorder depth ++ preorderList depth trees

end

mutual

/-- The labels of the leaves, left to right. -/
def frontier : Tree → List String
  | .node label [] => [label]
  | .node _ (child :: children) => child.frontier ++ frontierList children

def frontierList : List Tree → List String
  | [] => []
  | tree :: trees => tree.frontier ++ frontierList trees

end

theorem preorder_eq (depth : Nat) (tree : Tree) :
    tree.preorder depth = (depth, tree) :: preorderList (depth + 1) tree.children := by
  cases tree
  rfl

theorem preorderList_eq_flatMap (depth : Nat) (trees : List Tree) :
    preorderList depth trees = trees.flatMap (preorder depth) := by
  induction trees with
  | nil => rfl
  | cons tree trees ih => rw [preorderList, ih, List.flatMap_cons]

theorem frontierList_eq_flatMap (trees : List Tree) :
    frontierList trees = trees.flatMap frontier := by
  induction trees with
  | nil => rfl
  | cons tree trees ih => rw [frontierList, ih, List.flatMap_cons]

/-- A node that is no leaf has the leaves of its subtrees. -/
theorem frontier_node (label : String) {children : List Tree} (nonempty : children ≠ []) :
    (node label children).frontier = children.flatMap frontier := by
  cases children with
  | nil => exact absurd rfl nonempty
  | cons child children => rw [frontier, frontierList_eq_flatMap, List.flatMap_cons]

theorem frontier_withLeaves (label : String) {leaves : List String} (nonempty : leaves ≠ []) :
    (withLeaves label leaves).frontier = leaves := by
  have labels : leaves.flatMap (fun value => (leaf value).frontier) = leaves := by
    induction leaves with
    | nil => rfl
    | cons value leaves ih =>
      cases leaves with
      | nil => rfl
      | cons other leaves =>
        rw [List.flatMap_cons, ih (List.cons_ne_nil _ _)]
        rfl
  rw [withLeaves, frontier_node label (by simpa using nonempty), List.flatMap_map, labels]

mutual

/-- The leaves found on the way through a tree are its frontier, from whatever depth. -/
theorem leaves_preorder (depth : Nat) : (tree : Tree) →
    ((tree.preorder depth).filter fun (_, tree) => tree.isLeaf).map (fun (_, tree) => tree.label) =
      tree.frontier
  | .node label [] => rfl
  | .node label (child :: children) => by
    have inner : (node label (child :: children)).isLeaf = false := rfl
    have below := leaves_preorderList (depth + 1) (child :: children)
    rw [preorder, List.filter_cons_of_neg (by simp [inner]), below]
    rfl

/-- The same for trees one after the other. -/
theorem leaves_preorderList (depth : Nat) : (trees : List Tree) →
    ((preorderList depth trees).filter fun (_, tree) => tree.isLeaf).map
      (fun (_, tree) => tree.label) = frontierList trees
  | [] => rfl
  | tree :: trees => by
    rw [preorderList, List.filter_append, List.map_append, leaves_preorder depth tree,
      leaves_preorderList depth trees]
    rfl

end

end Tree

namespace Walk

/-- A walk tells what is pending, tree by tree. The induction is on the nodes still to be
visited. -/
theorem toList_eq (walk : Walk) :
    walk.toList = walk.pending.flatMap fun (depth, tree) => tree.preorder depth := by
  induction size : walk.size using Nat.strongRecOn generalizing walk with
  | ind count ih =>
    rw [toList]
    split
    · next done =>
      obtain ⟨pending⟩ := walk
      cases pending with
      | nil => rfl
      | cons head pending => cases done
    · next visited rest step =>
      have later := ih rest.size (by rw [← size, size_of_next? step]; omega) rest rfl
      rw [later]
      obtain ⟨pending⟩ := walk
      cases pending with
      | nil => cases step
      | cons head pending =>
        obtain ⟨depth, tree⟩ := head
        obtain ⟨rfl, rfl⟩ := Prod.mk.inj (Option.some.inj step)
        simp only [List.flatMap_append, List.flatMap_map, List.flatMap_cons]
        rw [Tree.preorder_eq depth tree, Tree.preorderList_eq_flatMap, List.cons_append]

end Walk

namespace Tree

theorem walk_toList (tree : Tree) : tree.walk.toList = tree.preorder 0 := by
  rw [Walk.toList_eq]
  exact List.append_nil _

/-- The depths and the labels of the nodes of a tree whose root has this depth: the root, and then
the subtrees in order. -/
def outline (depth : Nat) (tree : Tree) : List (Nat × String) :=
  (tree.preorder depth).map fun (depth, tree) => (depth, tree.label)

theorem outline_node (depth : Nat) (label : String) (children : List Tree) :
    (node label children).outline depth =
      (depth, label) :: children.flatMap (outline (depth + 1)) := by
  rw [outline, preorder, preorderList_eq_flatMap, List.map_cons, List.map_flatMap]
  rfl

theorem visit_eq_outline (tree : Tree) : tree.visit = tree.outline 0 := by
  rw [visit, walk_toList]
  rfl

theorem leafLabels_eq_frontier (tree : Tree) : tree.leafLabels = tree.frontier := by
  rw [leafLabels, walk_toList, leaves_preorder]

end Tree

end Scl
