import PageRecipe.Prose.Run
import PageRecipe.Proofs.Prose.DocumentOrder

/-!
# Sections among siblings

`Run.ofSection` and `Run.after` find the siblings of a node by its place. When the node
stands below the tree, they cut the child list that really holds it, from the node on
(`siblingsFrom_of_split`); the root has no siblings, and both are empty.

`Run.IsSection` says what a section is without the search by place, and
`isSection_iff` that `Run.ofSection` computes it.
-/

namespace PageRecipe.Run

open Located

theorem fromStart_of_split {parent start : Located} {before after : List Located}
    (h : parent.children = before ++ start :: after) :
    fromStart start parent.children = start :: after := by
  have hnodup := parent.nodup_places_children
  rw [h, List.map_append, List.map_cons, List.nodup_append] at hnodup
  have hbefore : ∀ l ∈ before, (!l.same start) = true := by
    intro l hl
    rw [Bool.not_eq_true', Bool.eq_false_iff, Ne, same_iff]
    exact hnodup.2.2 _ (List.mem_map_of_mem hl) _ List.mem_cons_self
  rw [fromStart, h, List.dropWhile_append_of_pos hbefore, List.dropWhile_cons_of_neg]
  simp [same_iff]

theorem siblingsFrom_of_split {tree parent start : Located} {before after : List Located}
    (hparent : parent ∈ tree.preorder) (h : parent.children = before ++ start :: after) :
    siblingsFrom start tree = start :: after := by
  rw [siblingsFrom, parent?_eq_some hparent (h ▸ by simp)]
  exact fromStart_of_split h

theorem siblingsFrom_self (tree : Located) : siblingsFrom tree tree = [] := by
  rw [siblingsFrom, parent?_self]

theorem ofSection_of_split {tree parent start : Located} {before after : List Located}
    (hparent : parent ∈ tree.preorder) (h : parent.children = before ++ start :: after) :
    ofSection start tree =
      ⟨start :: after.takeWhile fun l => !endsSection start.node.headingRank? l.node⟩ := by
  rw [ofSection, siblingsFrom_of_split hparent h]

theorem ofSection_self (tree : Located) : ofSection tree tree = empty := by
  rw [ofSection, siblingsFrom_self]

theorem isHeading_of_endsSection {own : Option Nat} {node : Node}
    (h : endsSection own node = true) : node.isHeading = true := by
  cases hrank : node.headingRank? with
  | none =>
    cases own <;> simp [endsSection, hrank] at h
  | some rank => rw [Node.isHeading, hrank, Option.isSome_some]

theorem stop_eq_false_of_mem_takeWhile {stop : Node → Bool} {ls : List Located} {l : Located}
    (h : l ∈ ls.takeWhile fun l => !stop l.node) : stop l.node = false := by
  simpa using List.all_eq_true.mp List.all_takeWhile l h

theorem stop_of_mem_head?_dropWhile {stop : Node → Bool} {ls : List Located} {l : Located}
    (h : l ∈ (ls.dropWhile fun l => !stop l.node).head?) : stop l.node = true := by
  have hstop := List.head?_dropWhile_not (fun l : Located => !stop l.node) ls
  rw [Option.mem_def.mp h] at hstop
  simpa using hstop

/-- A list falls into the run of nodes before the first stop, and what the stop opens. -/
theorem takeWhile_eq_of_split (stop : Located → Bool) {owned rest : List Located}
    (howned : ∀ l ∈ owned, stop l = false) (hrest : ∀ l ∈ rest.head?, stop l = true) :
    (owned ++ rest).takeWhile (fun l => !stop l) = owned := by
  rw [List.takeWhile_append_of_pos fun l hl => by simp [howned l hl]]
  cases rest with
  | nil => simp
  | cons next rest => simp [hrest next (by simp)]

theorem after_of_split {tree parent start : Located} {before after : List Located}
    (stop : Node → Bool) (hparent : parent ∈ tree.preorder)
    (h : parent.children = before ++ start :: after) :
    Run.after start stop tree = ⟨after.takeWhile fun l => !stop l.node⟩ := by
  rw [Run.after, siblingsFrom_of_split hparent h, List.tail_cons]

theorem after_of_split_of_noStop {tree parent start : Located} {before after : List Located}
    (hparent : parent ∈ tree.preorder) (h : parent.children = before ++ start :: after) :
    Run.after start (fun _ => false) tree = ⟨after⟩ := by
  have hall : (after ++ []).takeWhile (fun _ => !false) = after :=
    takeWhile_eq_of_split (fun _ => false) (fun _ _ => rfl) (by simp)
  rw [List.append_nil] at hall
  rw [after_of_split _ hparent h, hall]

theorem selectAll_eq_filter (run : Run) (pred : Node → Bool) :
    run.selectAll pred = (run.nodes.flatMap preorder).filter (pred ·.node) := by
  rw [selectAll, descendants, funext descendants_eq_preorder]

/-- Places in a filtered list are the places in the whole list whose element is kept. -/
theorem forall_split_filter_iff {α : Type} {keep : α → Bool} {xs : List α}
    {Q : List α → α → List α → Prop} :
    (∀ before x after, xs.filter keep = before ++ x :: after → Q before x after) ↔
      ∀ before x after, xs = before ++ x :: after → keep x = true →
        Q (before.filter keep) x (after.filter keep) := by
  constructor
  · rintro h before x after rfl hx
    exact h _ _ _ (by simp [hx])
  · intro h before x after hsplit
    obtain ⟨front, back, rfl, rfl, hback⟩ := List.filter_eq_append_iff.mp hsplit
    obtain ⟨dropped, rest, rfl, hdropped, hx, rfl⟩ := List.filter_eq_cons_iff.mp hback
    have hnone : dropped.filter keep = [] := List.filter_eq_nil_iff.mpr hdropped
    simpa [hnone] using h (front ++ dropped) x rest (by simp) hx

/-- The section that a node owns : the node and the siblings after it, up to the first one
that ends the section. The root has no siblings and its section is empty. -/
inductive IsSection (tree : Located) : Located → List Located → Prop where
  | root : IsSection tree tree []
  | below {parent start : Located} {before owned rest : List Located}
      (hparent : parent ∈ tree.preorder)
      (hsplit : parent.children = before ++ start :: (owned ++ rest))
      (howned : ∀ l ∈ owned, endsSection start.node.headingRank? l.node = false)
      (hrest : ∀ l ∈ rest.head?, endsSection start.node.headingRank? l.node = true) :
      IsSection tree start (start :: owned)

/-- A section is the node and a part of the siblings after it, which holds no end of the section ;
if more siblings follow, the first of them is the end. -/
theorem exists_split_ofSection {tree parent start : Located} {before after : List Located}
    (hparent : parent ∈ tree.preorder) (h : parent.children = before ++ start :: after) :
    ∃ owned rest, after = owned ++ rest ∧ (ofSection start tree).nodes = start :: owned ∧
      (∀ l ∈ owned, endsSection start.node.headingRank? l.node = false) ∧
      ∀ l ∈ rest.head?, endsSection start.node.headingRank? l.node = true :=
  ⟨_, _, List.takeWhile_append_dropWhile.symm, by rw [ofSection_of_split hparent h],
    fun _ => stop_eq_false_of_mem_takeWhile, fun _ => stop_of_mem_head?_dropWhile⟩

theorem isSection_iff {tree start : Located} {nodes : List Located}
    (h : start ∈ tree.preorder) :
    IsSection tree start nodes ↔ (ofSection start tree).nodes = nodes := by
  constructor
  · intro hsection
    cases hsection with
    | root => rw [ofSection_self, empty]
    | below hparent hsplit howned hrest =>
      rw [ofSection_of_split hparent hsplit,
        takeWhile_eq_of_split (fun l => endsSection _ l.node) howned hrest]
  · rintro rfl
    rcases eq_or_exists_parent h with rfl | ⟨parent, hparent, hstart⟩
    · rw [ofSection_self]
      exact .root
    · obtain ⟨before, after, hsplit⟩ := List.append_of_mem hstart
      obtain ⟨owned, rest, rfl, hnodes, howned, hrest⟩ := exists_split_ofSection hparent hsplit
      rw [hnodes]
      exact .below hparent hsplit howned hrest

/-- When no later sibling ends it, a section goes on to the last one. -/
theorem isSection_of_noEnd {tree parent start : Located} {before after : List Located}
    (hparent : parent ∈ tree.preorder) (h : parent.children = before ++ start :: after)
    (hafter : ∀ l ∈ after, endsSection start.node.headingRank? l.node = false) :
    IsSection tree start (start :: after) := by
  have hsplit : parent.children = before ++ start :: (after ++ []) := by rw [h, List.append_nil]
  exact .below hparent hsplit hafter (by simp)

/-- The section of a first child that no sibling ends is all of the children. -/
theorem isSection_children {tree start : Located} {after : List Located}
    (h : tree.children = start :: after)
    (hafter : ∀ l ∈ after, endsSection start.node.headingRank? l.node = false) :
    IsSection tree start tree.children := by
  have hsplit : tree.children = [] ++ start :: after := h
  rw [h]
  exact isSection_of_noEnd (self_mem_preorder tree) hsplit hafter

/-- The node that opens a section is a child of no node of the section. -/
theorem IsSection.notMem_children {tree start l : Located} {nodes : List Located}
    (h : IsSection tree start nodes) (hl : l ∈ nodes.flatMap preorder) : start ∉ l.children := by
  intro hstart
  cases h with
  | root => simp at hl
  | @below parent _ before owned rest hparent hsplit _ _ =>
    obtain ⟨top, htop, hbelow⟩ := List.mem_flatMap.mp hl
    have hchild : top ∈ parent.children := by
      rw [hsplit, ← List.cons_append]
      exact List.mem_append_right _ (List.mem_append_left _ htop)
    have htree : l ∈ tree.preorder :=
      mem_preorder_trans hbelow (mem_preorder_trans (child_mem_preorder hchild) hparent)
    have hsame : l = parent :=
      eq_of_child_place_eq htree hparent hstart (by simp [hsplit]) rfl
    exact notMem_preorder_of_mem_children hchild (hsame ▸ hbelow)

end PageRecipe.Run
