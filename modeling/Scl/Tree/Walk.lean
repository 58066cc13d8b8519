import Scl.Tree

/-! # Walking a tree

A walk goes through the nodes of a tree from the root down and from left to right, and tells the
depth of each. It holds the subtrees that are still to be visited, and only visiting a node adds
its children to them, so the first steps of a walk cost nothing for the rest of the tree. Reading
the leaves and rendering are both done by walking.
-/

namespace Scl

/-- A walk under way: the subtrees still to be visited, each with its depth, the next one first. -/
structure Walk where
  pending : List (Nat × Tree)

namespace Walk

def size (walk : Walk) : Nat :=
  Tree.sizeList (walk.pending.map Prod.snd)

/-- The next node with its depth, and the walk after it. -/
def next? (walk : Walk) : Option ((Nat × Tree) × Walk) :=
  match walk.pending with
  | [] => none
  | (depth, tree) :: pending =>
    some ((depth, tree), ⟨tree.children.map (fun child => (depth + 1, child)) ++ pending⟩)

theorem size_of_next? {walk rest : Walk} {visited : Nat × Tree}
    (step : walk.next? = some (visited, rest)) : walk.size = rest.size + 1 := by
  obtain ⟨pending⟩ := walk
  cases pending with
  | nil => simp [next?] at step
  | cons head pending =>
    obtain ⟨depth, label, children⟩ := head
    simp only [next?, Tree.children_node, Option.some.injEq, Prod.mk.injEq] at step
    obtain ⟨_, rfl⟩ := step
    have sizes (trees others : List Tree) :
        Tree.sizeList (trees ++ others) = Tree.sizeList trees + Tree.sizeList others := by
      induction trees with
      | nil => simp [Tree.sizeList]
      | cons tree trees ih => simp [Tree.sizeList, ih, Nat.add_assoc]
    simp [size, Tree.sizeList, Tree.size, sizes, Function.comp_def]
    omega

/-- The first `count` nodes of a walk, or all of them if there are fewer. -/
def take : Nat → Walk → List (Nat × Tree)
  | 0, _ => []
  | count + 1, walk =>
    match walk.next? with
    | none => []
    | some (visited, rest) => visited :: take count rest

def toList (walk : Walk) : List (Nat × Tree) :=
  match step : walk.next? with
  | none => []
  | some (visited, rest) =>
    have fewer : rest.size < walk.size := by rw [size_of_next? step]; omega
    visited :: rest.toList
termination_by walk.size

end Walk

namespace Tree

/-- The walk through all of a tree, whose root has depth 0. -/
def walk (tree : Tree) : Walk :=
  ⟨[(0, tree)]⟩

/-- The nodes in walking order, each as its depth and its label. -/
def visit (tree : Tree) : List (Nat × String) :=
  tree.walk.toList.map fun (depth, tree) => (depth, tree.label)

/-- The first `count` places of `visit`. -/
def visitFirst (tree : Tree) (count : Nat) : List (Nat × String) :=
  (tree.walk.take count).map fun (depth, tree) => (depth, tree.label)

/-- The labels of the leaves, left to right. -/
def leafLabels (tree : Tree) : List String :=
  (tree.walk.toList.filter fun (_, tree) => tree.isLeaf).map fun (_, tree) => tree.label

/-- The line of a node: four blanks for each step down from the root, then the label. -/
def lineAt (depth : Nat) (label : String) : String :=
  String.ofList (List.replicate (depth * 4) ' ') ++ label ++ "\n"

/-- The tree as text, one line for each node. -/
def render (tree : Tree) : String :=
  String.join (tree.visit.map fun (depth, label) => lineAt depth label)

end Tree

end Scl
