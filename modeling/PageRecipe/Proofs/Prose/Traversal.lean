import Mathlib.Data.List.Nodup
import PageRecipe.Proofs.Prose.Nodes

/-!
# Traversals step by step

A tree is traversed with a stack of pending nodes. `Located.takeTop?` is one step : the node on
top comes off and its children go on, the last one first, so that the first one is next. What comes
off until the stack is empty (`Located.ComesOff`) is what `Located.walk` lists (`comesOff_iff`), so
the steps come to an end from every stack, with one outcome.

From the stack of one tree this is the traversal by recursion, in which each place of the tree
comes once (`nodup_places_preorder`, `at?_eq_some_iff`). The searches and the text of a tree are
told by it (`comesOff_preorder`).
-/

namespace PageRecipe

namespace Located

/-! ## Steps -/

/-- One step on a stack whose top is its last entry : the top comes off, and its children go on,
the last one first. -/
def takeTop? (stack : List Located) : Option (Located × List Located) :=
  stack.getLast?.map fun top => (top, stack.dropLast ++ top.children.reverse)

/-- What comes off a stack, step by step, until it is empty. -/
inductive ComesOff : List Located → List Located → Prop where
  | done {stack : List Located} (h : takeTop? stack = none) : ComesOff stack []
  | step {stack rest visited : List Located} {top : Located}
      (h : takeTop? stack = some (top, rest)) (hrest : ComesOff rest visited) :
      ComesOff stack (top :: visited)

/-- On the pending nodes, listed from the top down, a step puts the children in the place of their
parent. -/
theorem takeTop?_reverse_cons (top : Located) (pending : List Located) :
    takeTop? (top :: pending).reverse = some (top, (top.children ++ pending).reverse) := by
  simp [takeTop?]

/-- From every stack the steps come to an end, and what comes off on the way is what a walk along
the pending nodes lists. -/
theorem comesOff_iff {stack visited : List Located} :
    ComesOff stack visited ↔ visited = walk stack.reverse := by
  constructor
  · intro h
    induction h with
    | @done stack h =>
      obtain rfl : stack = [] := by simpa [takeTop?] using h
      rw [List.reverse_nil, walk]
    | @step stack rest visited top h _ ih =>
      cases hpending : stack.reverse with
      | nil =>
        obtain rfl := List.reverse_eq_nil_iff.mp hpending
        cases h
      | cons last pending =>
        rw [← List.reverse_reverse stack, hpending, takeTop?_reverse_cons] at h
        obtain ⟨rfl, rfl⟩ := Prod.mk.inj (Option.some.inj h)
        rw [walk, ih, List.reverse_reverse]
  · rintro rfl
    -- By the recursion of `walk`, whose measure is the number of nodes at and below those that
    -- are pending.
    suffices h : ∀ pending, ComesOff pending.reverse (walk pending) by
      simpa using h stack.reverse
    intro pending
    induction pending using walk.induct with
    | case1 =>
      rw [walk]
      exact .done rfl
    | case2 top pending ih =>
      rw [walk]
      exact .step (takeTop?_reverse_cons top pending) ih

/-! ## Places -/

/-- What stands below a child has a path that goes on from the child's index. -/
theorem exists_path_of_mem_child_preorder {tree child l : Located} {i : Nat}
    (hchild : tree.children[i]? = some child) (hl : l ∈ child.preorder) :
    ∃ path, l.place = ⟨tree.place.copy, tree.place.path ++ i :: path⟩ := by
  obtain ⟨path, hplace, -⟩ := at?_of_mem_preorder hl
  refine ⟨path, ?_⟩
  rw [hplace, place_of_getElem?_children hchild, List.append_assoc, List.singleton_append]

/-- No place comes twice : below different children the paths part at the index of the child. -/
theorem nodup_places_preorder (tree : Located) : (tree.preorder.map (·.place)).Nodup := by
  induction tree using Located.induction with
  | step tree ih =>
    rw [preorder_eq, List.map_cons, List.map_flatMap, List.nodup_cons, List.nodup_flatMap]
    refine ⟨fun hmem => ?_, fun child hchild => ih child hchild, ?_⟩
    · obtain ⟨child, hchild, hmem⟩ := List.mem_flatMap.mp hmem
      obtain ⟨l, hl, hplace⟩ := List.mem_map.mp hmem
      obtain ⟨i, hi⟩ := List.mem_iff_getElem?.mp hchild
      obtain ⟨path, hpath⟩ := exists_path_of_mem_child_preorder hi hl
      have hlength := congrArg (fun place : Place => place.path.length) (hpath.symm.trans hplace)
      simp at hlength
    · -- A place below two children has a path that goes on from both of their indices.
      rw [List.pairwise_iff_getElem]
      intro i j hi hj hij place hfirst hsecond
      obtain ⟨a, ha, hplace⟩ := List.mem_map.mp hfirst
      obtain ⟨b, hb, rfl⟩ := List.mem_map.mp hsecond
      obtain ⟨p, hp⟩ := exists_path_of_mem_child_preorder (List.getElem?_eq_getElem hi) ha
      obtain ⟨q, hq⟩ := exists_path_of_mem_child_preorder (List.getElem?_eq_getElem hj) hb
      rw [hp, hq, Place.mk.injEq] at hplace
      have hindex := (List.cons.inj (List.append_cancel_left hplace.2)).1
      omega

theorem mem_preorder_of_at? {tree l : Located} {path : List Nat} (h : tree.at? path = some l) :
    l ∈ tree.preorder ∧ l.place = ⟨tree.place.copy, tree.place.path ++ path⟩ := by
  induction path generalizing tree with
  | nil =>
    obtain rfl := Option.some.inj h
    exact ⟨self_mem_preorder tree, by rw [List.append_nil]⟩
  | cons i path ih =>
    cases hchild : tree.children[i]? with
    | none => simp [at?, hchild] at h
    | some child =>
      rw [at?, hchild] at h
      obtain ⟨hmem, hplace⟩ := ih h
      refine ⟨mem_preorder_of_mem_children (List.mem_of_getElem? hchild) hmem, ?_⟩
      rw [hplace, place_of_getElem?_children hchild, List.append_assoc, List.singleton_append]

/-- A path leads to the node of the traversal that stands at its end. -/
theorem at?_eq_some_iff {tree l : Located} {path : List Nat} : tree.at? path = some l ↔
    l ∈ tree.preorder ∧ l.place = ⟨tree.place.copy, tree.place.path ++ path⟩ := by
  refine ⟨mem_preorder_of_at?, fun ⟨hmem, hplace⟩ => ?_⟩
  obtain ⟨other, hother, hat⟩ := at?_of_mem_preorder hmem
  rw [hplace, Place.mk.injEq] at hother
  rwa [List.append_cancel_left hother.2]

/-! ## Owners -/

/-- `owner` is the only node of the tree with a child at the place of `l`, and this child is
`l`. -/
structure IsOwner (tree owner l : Located) : Prop where
  mem_tree : owner ∈ tree.preorder
  mem_children : l ∈ owner.children
  only : ∀ other ∈ tree.preorder, (∃ child ∈ other.children, child.place = l.place) → other = owner

theorem isOwner_of_mem_children {tree owner l : Located} (howner : owner ∈ tree.preorder)
    (hchild : l ∈ owner.children) : IsOwner tree owner l where
  mem_tree := howner
  mem_children := hchild
  only _ hother := fun ⟨_, hmem, hplace⟩ => eq_of_child_place_eq hother howner hmem hchild hplace

/-- A node of the tree is the root, which has no parent, or its owner is found. -/
theorem eq_root_or_isOwner {tree l : Located} (h : l ∈ tree.preorder) :
    l = tree ∧ tree.parent? l = none ∨
      ∃ owner, IsOwner tree owner l ∧ tree.parent? l = some owner := by
  rcases eq_or_exists_parent h with rfl | ⟨owner, howner, hchild⟩
  · exact Or.inl ⟨rfl, parent?_self l⟩
  · exact Or.inr ⟨owner, isOwner_of_mem_children howner hchild, parent?_eq_some howner hchild⟩

end Located

namespace Node

mutual

theorem textContent_eq_join : ∀ node : Node,
    node.textContent = String.join (node.nodes.filterMap text?)
  | .text value => by simp [textContent, nodes, text?]
  | .element tag id classes children => by
    rw [textContent, nodes, List.filterMap_cons_none rfl, textContents_eq_join children]

/-- The text of nodes is what the text nodes among them and below them hold, one after the other. -/
theorem textContents_eq_join : ∀ list : List Node,
    textContents list = String.join ((nodesOfAll list).filterMap text?)
  | [] => rfl
  | node :: rest => by
    rw [textContents, nodesOfAll, List.filterMap_append, String.join_append,
      textContent_eq_join node, textContents_eq_join rest]

end

end Node

namespace Located

/-- The steps from the stack of one tree come to an end, with the traversal by recursion : the
node, and then its children's traversals, one after the other. Every place to which a path leads
comes once. By this order the texts of the tree make its text, all nodes or the first one of a kind
are found, and every node but the root has one owner, which is found as its parent. -/
theorem comesOff_preorder (tree : Located) :
    (∀ visited, ComesOff [tree] visited ↔ visited = tree.descendants) ∧
    tree.descendants = tree.preorder ∧
    tree.preorder = tree :: tree.children.flatMap preorder ∧
    (tree.preorder.map (·.place)).Nodup ∧
    (∀ path l, tree.at? path = some l ↔
      l ∈ tree.preorder ∧ l.place = ⟨tree.place.copy, tree.place.path ++ path⟩) ∧
    tree.node.textContent = String.join (tree.preorder.filterMap (·.node.text?)) ∧
    (∀ pred, tree.selectAll pred = tree.preorder.filter (pred ·.node) ∧
      tree.select? pred = tree.preorder.find? (pred ·.node)) ∧
    tree.parent? tree = none ∧
    ∀ l ∈ tree.preorder, l = tree ∨
      ∃ owner, IsOwner tree owner l ∧ tree.parent? l = some owner := by
  refine ⟨fun visited => ?_, descendants_eq_preorder tree, preorder_eq tree,
    nodup_places_preorder tree, fun path l => at?_eq_some_iff, ?_, fun pred => ⟨?_, ?_⟩,
    parent?_self tree, fun l hl => ?_⟩
  · rw [comesOff_iff]
    rfl
  · rw [Node.textContent_eq_join, ← map_node_preorder, List.filterMap_map]
    rfl
  · rw [selectAll, descendants_eq_preorder]
  · exact select?_eq_find? tree pred
  · exact (eq_root_or_isOwner hl).imp_left And.left

/-- A page with a list of one entry. -/
def entryPage : Node :=
  .branch "body" [.branch "p" [.text "A"], .branch "dl" [.branch "dt" [], .branch "dd" [.text "B"]]]

/-- The nodes of the page come off in the order in which they are written, and the list owns its
first entry. -/
theorem comesOff_entryPage : ∃ visited, ComesOff [root entryPage 0] visited ∧
    visited.map (·.node.display) = ["body", "p", "#text", "dl", "dt", "dd", "#text"] ∧
    (root entryPage 0).parent? (root entryPage 0).children[1].children[0] =
      some (root entryPage 0).children[1] := by
  obtain ⟨hvisits, hpreorder, -, -, -, -, -, -, howners⟩ := comesOff_preorder (root entryPage 0)
  refine ⟨_, (hvisits _).mpr rfl, by rw [hpreorder]; decide +kernel, ?_⟩
  have hlist : (root entryPage 0).children[1] ∈ (root entryPage 0).preorder :=
    child_mem_preorder (List.getElem_mem _)
  have hentry : (root entryPage 0).children[1].children[0] ∈ (root entryPage 0).preorder :=
    mem_preorder_trans (child_mem_preorder (List.getElem_mem _)) hlist
  rcases howners _ hentry with hroot | ⟨owner, howner, hparent⟩
  · have hpath := congrArg (·.place.path) hroot
    cases hpath
  · rw [hparent, howner.only _ hlist ⟨_, List.getElem_mem _, rfl⟩]

end Located

end PageRecipe
