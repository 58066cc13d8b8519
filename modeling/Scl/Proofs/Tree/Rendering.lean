import Scl.Proofs.Tree.Outline
import Scl.Proofs.Tree.Walking

/-! # A tree is known by its text

The text of a tree has a line for each node. Where no label breaks a line or starts with a blank,
the lines of the text are those of the nodes, the blanks in front of a line tell the depth of its
node, also before an empty label, and what follows them is the label. So the entries of the walk,
and with them the tree, can be read back from the text. A label with a line break or a leading
blank can pass for other lines or for a deeper node.
-/

namespace Scl

namespace Text

/-- The lines of a text: what stands before each line break. What stands behind the last one is no
line. -/
def lines (text : String) : List String :=
  (text.toList.splitOn '\n').dropLast.map String.ofList

/-- A label that stays on its line and shows where its line begins. -/
structure IsLineSafe (label : String) : Prop where
  unbroken : '\n' ∉ label.toList
  flush : label.toList.head? ≠ some ' '

instance (label : String) : Decidable (IsLineSafe label) :=
  decidable_of_iff ('\n' ∉ label.toList ∧ label.toList.head? ≠ some ' ')
    ⟨fun safe => ⟨safe.1, safe.2⟩, fun safe => ⟨safe.unbroken, safe.flush⟩⟩

/-- Lines without line breaks are the lines of the text in which each of them is ended by one. -/
theorem lines_join {lines : List String} (unbroken : ∀ line ∈ lines, '\n' ∉ line.toList) :
    Text.lines (String.join (lines.map (· ++ "\n"))) = lines := by
  have pieces : (String.join (lines.map (· ++ "\n"))).toList.splitOn '\n' =
      lines.map String.toList ++ [[]] := by
    induction lines with
    | nil => rfl
    | cons line lines ih =>
      have here := unbroken line (List.mem_cons_self ..)
      have later := ih fun other member => unbroken other (List.mem_cons_of_mem _ member)
      rw [List.map_cons, String.join_cons, String.toList_append, String.toList_append,
        List.append_assoc]
      exact (List.splitOn_append_cons_self_of_not_mem here _).trans
        (congrArg (line.toList :: ·) later)
  rw [Text.lines, pieces, List.dropLast_concat, List.map_map, String.ofList_comp_toList,
    List.map_id]

end Text

namespace Tree

def IsLineSafe (tree : Tree) : Prop :=
  ∀ entry ∈ tree.visit, Text.IsLineSafe entry.2

instance (tree : Tree) : Decidable tree.IsLineSafe :=
  decidable_of_iff (∀ entry ∈ tree.outline 0, Text.IsLineSafe entry.2)
    (by rw [IsLineSafe, visit_eq_outline])

/-- The line of a node, without its line break: four blanks for each step down, and the label. -/
def indented (entry : Nat × String) : String :=
  String.ofList (List.replicate (4 * entry.1) ' ') ++ entry.2

/-- The depth and the label that a line shows. -/
def ofLine (line : String) : Nat × String :=
  ((line.toList.takeWhile (· == ' ')).length / 4,
    String.ofList (line.toList.dropWhile (· == ' ')))

/-- The tree that a text shows, if its lines show one. -/
def ofText? (text : String) : Option Tree :=
  match regrow ((Text.lines text).map ofLine) with
  | [(_, tree)] => some tree
  | _ => none

theorem toList_indented (entry : Nat × String) :
    (indented entry).toList = List.replicate (4 * entry.1) ' ' ++ entry.2.toList := by
  rw [indented, String.toList_append, String.toList_ofList]

theorem lineAt_eq (depth : Nat) (label : String) :
    lineAt depth label = indented (depth, label) ++ "\n" := by
  rw [lineAt, indented, Nat.mul_comm]

theorem render_eq_join (tree : Tree) :
    tree.render = String.join ((tree.visit.map indented).map (· ++ "\n")) := by
  rw [render, List.map_map]
  exact congrArg String.join (List.map_congr_left fun entry _ => lineAt_eq entry.1 entry.2)

/-- The blanks in front of a safe label are those of its depth. -/
theorem ofLine_indented {entry : Nat × String} (safe : Text.IsLineSafe entry.2) :
    ofLine (indented entry) = entry := by
  have inside : ∀ blank ∈ List.replicate (4 * entry.1) ' ', (blank == ' ') = true := by
    intro blank member
    rw [List.eq_of_mem_replicate member]
    rfl
  have stop : ∀ first ∈ entry.2.toList.head?, (first == ' ') = false := by
    intro first found
    refine beq_eq_false_iff_ne.mpr ?_
    rintro rfl
    exact safe.flush found
  obtain ⟨blanks, label⟩ := takeWhile_dropWhile_append inside stop
  rw [ofLine, toList_indented, blanks, label, List.length_replicate, String.ofList_toList,
    Nat.mul_div_cancel_left _ (by decide)]

theorem lines_render {tree : Tree} (safe : tree.IsLineSafe) :
    Text.lines tree.render = tree.visit.map indented := by
  rw [render_eq_join]
  refine Text.lines_join fun line member => ?_
  obtain ⟨entry, visited, rfl⟩ := List.mem_map.mp member
  rw [toList_indented, List.mem_append, not_or]
  refine ⟨fun blank => ?_, (safe entry visited).unbroken⟩
  cases List.eq_of_mem_replicate blank

theorem ofText?_render {tree : Tree} (safe : tree.IsLineSafe) :
    ofText? tree.render = some tree := by
  have entries : (tree.visit.map indented).map ofLine = tree.visit := by
    rw [List.map_map]
    exact (List.map_congr_left fun entry visited => ofLine_indented (safe entry visited)).trans
      (List.map_id _)
  rw [ofText?, lines_render safe, entries, regrow_visit]

/-- Among trees with safe labels no two have the same text. The text has one line for each node, in
the order of the walk and indented by its depth, and the tree can be read back from it. -/
theorem render_lossless {tree : Tree} (safe : tree.IsLineSafe) :
    (∀ other : Tree, other.IsLineSafe → (tree.render = other.render ↔ tree = other)) ∧
    (Text.lines tree.render).length = tree.size ∧
    tree.render = String.join ((Text.lines tree.render).map (· ++ "\n")) ∧
    (∀ index : Nat, (Text.lines tree.render)[index]? = tree.visit[index]?.map indented) ∧
    ofText? tree.render = some tree := by
  have lines := lines_render safe
  refine ⟨fun other safeOther => ⟨fun same => ?_, congrArg render⟩, ?_, ?_, ?_, ofText?_render safe⟩
  · have read := ofText?_render safe
    rw [same, ofText?_render safeOther] at read
    exact (Option.some.inj read).symm
  · rw [lines, List.length_map, visit_eq_outline, length_outline]
  · rw [lines]
    exact render_eq_join tree
  · intro index
    rw [lines, List.getElem?_map]

/-- Two trees with the same labels in the same order, one of them empty and one with a blank
inside. -/
theorem render_lossless_empty_label :
    let tree := node "Program" [node "" [leaf "x y"], leaf "é"]
    let other := node "Program" [node "" [leaf "x y", leaf "é"]]
    tree.IsLineSafe ∧ other.IsLineSafe ∧ tree.render ≠ other.render ∧
      ofText? tree.render = some tree := by
  intro tree other
  have safe : tree.IsLineSafe := by decide
  have safeOther : other.IsLineSafe := by decide
  obtain ⟨told, _, _, _, read⟩ := render_lossless safe
  have differ : tree ≠ other := by decide
  exact ⟨safe, safeOther, fun same => differ ((told other safeOther).mp same), read⟩

example : (leaf "x\n    y").render = (node "x" [leaf "y"]).render := by
  decide +kernel

end Tree

end Scl
