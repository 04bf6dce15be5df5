import PageRecipe.Proofs.Prose.Nodes
import PageRecipe.Proofs.Text.OutlineLines
import PageRecipe.Prose.Outline

/-!
# Lines of the outline of a page

The outline of a prose tree shows the top and, in document order, the nodes below it that are no
blank texts (`Located.shown`, `Node.labels_outline`). An element is shown by its names and a text
in quotes, so no text breaks a line. If no name does either, each of these nodes has one line, at
the depth at which it stands in the tree (`Node.forall₂_isLineOf_shown`) : a text cannot put in
lines of its own, whatever it looks like.
-/

namespace PageRecipe

namespace Located

/-- The nodes that the outline of a tree shows, in document order. The top is one of them whatever
it is. -/
def shown (tree : Located) : List Located :=
  tree :: (tree.children.flatMap preorder).filter fun l => !l.node.isBlankText

theorem shown_sublist_preorder {tree : Located} : tree.shown.Sublist tree.preorder := by
  rw [shown, preorder_eq]
  exact List.filter_sublist.cons_cons tree

/-- What the outline shows of a node, and how deep. -/
def label (l : Located) : Nat × String := (l.place.path.length, l.node.outlineLabel)

/-- A blank text has nothing below it, so it is left out with nothing else. -/
theorem filter_preorderAt (place : Place) (node : Node) :
    (preorderAt place node).filter (fun l => !l.node.isBlankText) =
      if node.isBlankText then [] else shown ⟨place, node⟩ := by
  change (preorder ⟨place, node⟩).filter _ = _
  rw [preorder_eq, shown]
  cases node with
  | element tag id classes nodes => simp [Node.isBlankText]
  | text value => cases hblank : Node.isBlankText (.text value) <;> simp [children_text, hblank]

mutual

/-- The labels of the outline are those of the nodes that it shows. -/
theorem labels_outline : ∀ (place : Place) (node : Node),
    node.outline.labels place.path.length = (shown ⟨place, node⟩).map label
  | place, .text value => by
    rw [Node.outline, Outline.labels, Outline.labelsOfAll, shown, children_text]
    rfl
  | place, .element tag id classes nodes => by
    rw [Node.outline, Outline.labels, shown, children_element, ← preorderFrom_eq_flatMap,
      labelsOfAll_outlines place 0 nodes]
    rfl

theorem labelsOfAll_outlines : ∀ (place : Place) (first : Nat) (nodes : List Node),
    Outline.labelsOfAll (place.path.length + 1) (Node.outlines nodes) =
      ((preorderFrom place first nodes).filter fun l => !l.node.isBlankText).map label
  | _, _, [] => rfl
  | place, first, node :: rest => by
    rw [Node.outlines, preorderFrom, List.filter_append, List.map_append,
      ← labelsOfAll_outlines place (first + 1) rest]
    cases hblank : node.isBlankText with
    | true => simp [filter_preorderAt, hblank]
    | false =>
      have hnode := labels_outline ⟨place.copy, place.path ++ [first]⟩ node
      rw [List.length_append, List.length_singleton] at hnode
      simp [filter_preorderAt, hblank, Outline.labelsOfAll, hnode]

end

end Located

namespace Node

/-! ## Names on one line -/

/-- No name of the node has a line feed. A text has no names. -/
structure HasPlainNames (node : Node) : Prop where
  tag : ∀ tag ∈ node.tag?, '\n' ∉ tag.toList
  id : ∀ id ∈ node.id?, '\n' ∉ id.toList
  classes : ∀ cls ∈ node.classes, '\n' ∉ cls.toList

instance (node : Node) : Decidable node.HasPlainNames :=
  decidable_of_iff ((∀ tag ∈ node.tag?, '\n' ∉ tag.toList) ∧ (∀ id ∈ node.id?, '\n' ∉ id.toList) ∧
      ∀ cls ∈ node.classes, '\n' ∉ cls.toList)
    ⟨fun ⟨htag, hid, hclasses⟩ => ⟨htag, hid, hclasses⟩, fun h => ⟨h.tag, h.id, h.classes⟩⟩

theorem lineFeed_notMem_display {tag : String} {id : Option String} {classes : List String}
    {children : List Node} (h : (element tag id classes children).HasPlainNames) :
    '\n' ∉ (element tag id classes children).display.toList := by
  have htag := h.tag tag rfl
  have hid := h.id
  have hclasses := h.classes
  rw [id?] at hid
  rw [Node.classes] at hclasses
  cases id <;> simp_all [display, String.toList_join]

/-- What is shown of a node is on one line if its names are, and of a text always. -/
theorem lineFeed_notMem_outlineLabel {node : Node} (h : node.HasPlainNames) :
    '\n' ∉ node.outlineLabel.toList := by
  cases node with
  | text value => exact Text.lineFeed_notMem_quoted _
  | element tag id classes children => exact lineFeed_notMem_display h

/-! ## Lines of the outline -/

/-- A line that shows the node behind four characters for each level that it stands below the
top. -/
def IsLineOf (l : Located) (line : List Char) : Prop :=
  ∃ marks, Outline.IsMarks l.place.path.length marks ∧
    line = marks ++ l.node.outlineLabel.toList ++ ['\n']

theorem forall₂_isLineOf_shown (tree : Node) (h : ∀ node ∈ tree.nodes, node.HasPlainNames) :
    List.Forall₂ IsLineOf (Located.root tree 0).shown
      (FrontMatter.lines tree.outline.render.toList) := by
  have hlabels : tree.outline.labels 0 = (Located.root tree 0).shown.map Located.label :=
    Located.labels_outline ⟨0, []⟩ tree
  have hfeeds : ∀ label ∈ tree.outline.labels 0, '\n' ∉ label.2.toList := by
    rw [hlabels, List.forall_mem_map]
    intro l hl
    have hnode : l.node ∈ (Located.root tree 0).preorder.map (·.node) :=
      List.mem_map_of_mem (Located.shown_sublist_preorder.subset hl)
    rw [Located.map_node_preorder] at hnode
    exact lineFeed_notMem_outlineLabel (h l.node hnode)
  have hlines := Outline.forall₂_isLineOf hfeeds
  rwa [hlabels, List.forall₂_map_left_iff] at hlines

theorem length_shown (tree : Node) : (Located.root tree 0).shown.length =
    1 + tree.nodes.tail.countP fun node => !node.isBlankText := by
  have hnodes := Located.map_node_preorder (Located.root tree 0)
  rw [Located.preorder_eq, List.map_cons] at hnodes
  have htail : tree.nodes.tail =
      ((Located.root tree 0).children.flatMap Located.preorder).map (·.node) :=
    (congrArg List.tail hnodes).symm
  rw [Located.shown, List.length_cons, Nat.add_comm, htail, List.countP_map,
    List.countP_eq_length_filter]
  rfl

/-- Of a page whose names have no line feeds the outline has one line for the top and one for every
other node that is no blank text, whatever the texts are, and these lines show the nodes in
document order. -/
theorem lines_render_outline (tree : Node) (h : ∀ node ∈ tree.nodes, node.HasPlainNames) :
    (FrontMatter.lines tree.outline.render.toList).length =
        1 + (tree.nodes.tail.countP fun node => !node.isBlankText) ∧
      List.Forall₂ IsLineOf (Located.root tree 0).shown
        (FrontMatter.lines tree.outline.render.toList) := by
  have hlines := forall₂_isLineOf_shown tree h
  exact ⟨hlines.length_eq.symm.trans (length_shown tree), hlines⟩

/-- A page with a text that looks like the lines of two more nodes. -/
def forgingPage : Node :=
  .branch "body" [.heading 2 "Syntax", .text "\n",
    .branch "p" [.text "A\"\n├── p.note\n│   └── \"B\u2028\r\u0000"]]

/-- All of the text is on one line. -/
theorem lines_forgingPage : (∀ node ∈ forgingPage.nodes, node.HasPlainNames) ∧
    (FrontMatter.lines forgingPage.outline.render.toList).length = 5 := by
  have hplain : ∀ node ∈ forgingPage.nodes, node.HasPlainNames := by decide
  exact ⟨hplain, (lines_render_outline forgingPage hplain).1⟩

end Node

end PageRecipe
