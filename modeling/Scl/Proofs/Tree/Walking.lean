import Mathlib.Data.List.Basic
import Scl.Proofs.Tree.Preorder

/-! # A walk step by step

A walk gives its nodes one at a time, and after any number of steps what it has still to give is
the rest of the whole list (`Walk.toList_after`). So stopping early gives the beginning of the
listing by recursion, no node is skipped or given twice, and when all are given the walk is over
and stays so. Adding a subtree to a tree adds its nodes, one level deeper, at the end of the walk.
-/

namespace Scl

namespace Walk

/-- The walk after this many steps. A walk that is over stays as it is. -/
def after : Nat → Walk → Walk
  | 0, walk => walk
  | count + 1, walk =>
    match walk.next? with
    | none => walk
    | some (_, rest) => after count rest

section Step

variable {walk rest : Walk} {visited : Nat × Tree}

theorem toList_of_ended (ended : walk.next? = none) : walk.toList = [] := by
  rw [toList]
  split
  · rfl
  · next step => cases ended.symm.trans step

theorem toList_of_next? (step : walk.next? = some (visited, rest)) :
    walk.toList = visited :: rest.toList := by
  rw [toList]
  split
  · next ended => cases ended.symm.trans step
  · next found =>
    cases found.symm.trans step
    rfl

/-- What a step gives is the head of what the walk has to give. -/
theorem map_next? (walk : Walk) : walk.next?.map Prod.fst = walk.toList.head? := by
  cases step : walk.next? with
  | none =>
    rw [toList_of_ended step]
    rfl
  | some found =>
    rw [toList_of_next? step]
    rfl

end Step

section Run

variable (walk : Walk) (count : Nat)

/-- Steps take nodes from the front of the walk, one each, as long as there are some. -/
theorem toList_after : (walk.after count).toList = walk.toList.drop count := by
  induction count generalizing walk with
  | zero => rfl
  | succ count ih =>
    cases step : walk.next? with
    | none => rw [after, step, toList_of_ended step, List.drop_nil]
    | some found =>
      rw [after, step, toList_of_next? step, List.drop_succ_cons]
      exact ih found.2

theorem take_eq : walk.take count = walk.toList.take count := by
  induction count generalizing walk with
  | zero => rfl
  | succ count ih =>
    cases step : walk.next? with
    | none => rw [take, step, toList_of_ended step, List.take_nil]
    | some found =>
      rw [take, step, toList_of_next? step, List.take_succ_cons]
      exact congrArg (found.1 :: ·) (ih found.2)

/-- The answer to each step is the node at its place, or nothing behind the last node. -/
theorem map_next?_after : (walk.after count).next?.map Prod.fst = walk.toList[count]? := by
  rw [map_next?, toList_after, List.head?_drop]

theorem length_toList : walk.toList.length = walk.size := by
  induction size : walk.size using Nat.strongRecOn generalizing walk with
  | ind count ih =>
    cases step : walk.next? with
    | none =>
      obtain ⟨pending⟩ := walk
      cases pending with
      | nil =>
        rw [toList_of_ended step, ← size]
        rfl
      | cons head pending => cases step
    | some found =>
      have fewer := size_of_next? step
      rw [toList_of_next? step, List.length_cons, ih found.2.size (by omega) found.2 rfl]
      omega

end Run

end Walk

namespace Tree

theorem size_walk (tree : Tree) : tree.walk.size = tree.size := by
  simp only [walk, Walk.size, List.map_cons, List.map_nil, sizeList, Nat.add_zero]

theorem length_outline (tree : Tree) : (tree.outline 0).length = tree.size := by
  rw [← visit_eq_outline, visit, List.length_map, Walk.length_toList, size_walk]

/-- Below a deeper root every node is deeper, and nothing else changes. -/
theorem outline_succ (tree : Tree) (depth : Nat) :
    tree.outline (depth + 1) =
      (tree.outline depth).map fun (depth, label) => (depth + 1, label) := by
  induction tree using Tree.induction generalizing depth with
  | node label children ih =>
    rw [outline_node, outline_node, List.map_cons, List.map_flatMap]
    congr 1
    exact List.flatMap_congr fun child member => ih child member (depth + 1)

theorem outline_addChild (tree child : Tree) (depth : Nat) :
    (tree.addChild child).outline depth = tree.outline depth ++ child.outline (depth + 1) := by
  obtain ⟨label, children⟩ := tree
  rw [addChild, label_node, children_node, outline_node, outline_node, List.flatMap_append,
    List.flatMap_singleton, List.cons_append]

theorem frontier_addChild (tree child : Tree) :
    (tree.addChild child).frontier =
      if tree.isLeaf then child.frontier else tree.frontier ++ child.frontier := by
  obtain ⟨label, children⟩ := tree
  rw [addChild, label_node, children_node, frontier_node label (by simp), List.flatMap_append,
    List.flatMap_singleton]
  cases children with
  | nil => rfl
  | cons first others =>
    rw [frontier_node label (List.cons_ne_nil first others)]
    rfl

/-- A walk through a tree gives, step by step, the listing by recursion and then nothing more,
however early it is stopped. The leaves it finds are those found by recursion. A subtree that is
added comes last, and its leaves come after those of the tree unless the tree was a leaf. -/
theorem walk_exact (tree : Tree) :
    (∀ count, tree.visitFirst count = (tree.outline 0).take count) ∧
    (∀ count, ((tree.walk.after count).next?.map fun (visited, _) => (visited.1, visited.2.label)) =
      (tree.outline 0)[count]?) ∧
    (∀ count, (tree.walk.after count).next? = none ↔ tree.size ≤ count) ∧
    tree.visit = tree.outline 0 ∧ tree.visit.length = tree.size ∧
    tree.leafLabels = tree.frontier ∧
    ∀ child : Tree,
      (tree.addChild child).visit =
        tree.visit ++ child.visit.map (fun (depth, label) => (depth + 1, label)) ∧
      (tree.addChild child).leafLabels =
        if tree.isLeaf then child.leafLabels else tree.leafLabels ++ child.leafLabels := by
  have answers (count : Nat) :
      ((tree.walk.after count).next?.map fun (visited, _) => (visited.1, visited.2.label)) =
        (tree.outline 0)[count]? := by
    have given := Walk.map_next?_after tree.walk count
    rw [walk_toList] at given
    rw [outline, List.getElem?_map, ← given, Option.map_map]
    rfl
  refine ⟨?_, answers, ?_, visit_eq_outline tree, ?_, leafLabels_eq_frontier tree, ?_⟩
  · intro count
    rw [visitFirst, Walk.take_eq, walk_toList, List.map_take]
    rfl
  · intro count
    rw [← length_outline, ← List.getElem?_eq_none_iff, ← answers, Option.map_eq_none_iff]
  · rw [visit_eq_outline, length_outline]
  · intro child
    constructor
    · rw [visit_eq_outline, visit_eq_outline, visit_eq_outline, outline_addChild, outline_succ]
    · simp only [leafLabels_eq_frontier, frontier_addChild]

end Tree

end Scl
