/-! # Labelled trees

A parse tree is a label and the list of its subtrees. Inner nodes are labelled with what they
stand for (`Program`, `SetStatement`), leaves with the words of the program.
-/

namespace Scl

/-- A tree with a label at every node. -/
inductive Tree where
  | node (label : String) (children : List Tree)
  deriving Repr

namespace Tree

def label : Tree → String
  | .node label _ => label

/-- The subtrees of the root, left to right. -/
def children : Tree → List Tree
  | .node _ children => children

def leaf (label : String) : Tree :=
  .node label []

/-- A node over one leaf for each of the labels. -/
def withLeaves (label : String) (leaves : List String) : Tree :=
  .node label (leaves.map leaf)

/-- The tree with one more subtree, after those that it has. -/
def addChild (tree child : Tree) : Tree :=
  .node tree.label (tree.children ++ [child])

def isLeaf (tree : Tree) : Bool :=
  tree.children.isEmpty

@[simp] theorem label_node (label : String) (children : List Tree) :
    (node label children).label = label := rfl

@[simp] theorem children_node (label : String) (children : List Tree) :
    (node label children).children = children := rfl

@[simp] theorem node_label_children (tree : Tree) : node tree.label tree.children = tree := by
  cases tree; rfl

@[simp] theorem children_addChild (tree child : Tree) :
    (tree.addChild child).children = tree.children ++ [child] := rfl

mutual

/-- Trees are equal when their labels and their lists of subtrees are. -/
def decEq : (a b : Tree) → Decidable (a = b)
  | .node label children, .node label' children' =>
    if sameLabel : label = label' then
      match decEqList children children' with
      | isTrue same => isTrue (by rw [sameLabel, same])
      | isFalse differ => isFalse fun same => differ (Tree.node.inj same).2
    else isFalse fun same => sameLabel (Tree.node.inj same).1

/-- Lists of trees are equal when they are so place by place. -/
def decEqList : (as bs : List Tree) → Decidable (as = bs)
  | [], [] => isTrue rfl
  | [], _ :: _ => isFalse (by simp)
  | _ :: _, [] => isFalse (by simp)
  | a :: as, b :: bs =>
    match decEq a b with
    | isFalse differ => isFalse fun same => differ (List.cons.inj same).1
    | isTrue same =>
      match decEqList as bs with
      | isTrue sameRest => isTrue (by rw [same, sameRest])
      | isFalse differ => isFalse fun same => differ (List.cons.inj same).2

end

instance : DecidableEq Tree := decEq

mutual

def size : Tree → Nat
  | .node _ children => 1 + sizeList children

def sizeList : List Tree → Nat
  | [] => 0
  | tree :: trees => tree.size + sizeList trees

end

/-- What holds of a node whenever it holds of all its subtrees holds of every tree. -/
@[elab_as_elim]
theorem induction {motive : Tree → Prop}
    (node : ∀ label children, (∀ child ∈ children, motive child) → motive (.node label children)) :
    (tree : Tree) → motive tree
  | .node label children => node label children fun child _ => induction node child

end Tree

end Scl
