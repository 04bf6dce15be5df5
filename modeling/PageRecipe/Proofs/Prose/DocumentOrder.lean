import PageRecipe.Prose.Selection

/-!
# Document order and places

`Located.walk` visits pending nodes off a stack and `Located.preorder` recurses over
children. Both list the same nodes in the same order (`descendants_eq_preorder`), so
everything below is stated on `preorder`, a node followed by the traversals of its
children (`preorder_eq`).

A place stands for the identity of a node. Its path leads from the root of the tree to
the node (`at?_of_mem_preorder`), so two nodes of a tree at one place are one node
(`eq_of_place_eq`). Hence the parent that is looked up by place is the node that holds
the child (`parent?_eq_some`), every node but the root has one (`eq_or_exists_parent`),
and the root and what stands nowhere in the tree have none (`parent?_eq_none_iff`).
-/

namespace PageRecipe.Located

/-! ## Children -/

theorem getElem?_childrenFrom (place : Place) : ∀ (nodes : List Node) (first i : Nat),
    (childrenFrom place first nodes)[i]? =
      nodes[i]?.map fun node => ⟨⟨place.copy, place.path ++ [first + i]⟩, node⟩
  | [], _, _ => by simp [childrenFrom]
  | node :: rest, first, 0 => by simp [childrenFrom]
  | node :: rest, first, i + 1 => by
    have ih := getElem?_childrenFrom place rest (first + 1) i
    rw [show first + 1 + i = first + (i + 1) by omega] at ih
    simpa [childrenFrom] using ih

theorem children_getElem? (l : Located) (i : Nat) :
    l.children[i]? =
      l.node.children[i]?.map fun node => ⟨⟨l.place.copy, l.place.path ++ [i]⟩, node⟩ := by
  rw [children, getElem?_childrenFrom, Nat.zero_add]

theorem place_of_getElem?_children {l child : Located} {i : Nat}
    (h : l.children[i]? = some child) :
    child.place = ⟨l.place.copy, l.place.path ++ [i]⟩ := by
  rw [children_getElem?] at h
  obtain ⟨node, -, rfl⟩ := Option.map_eq_some_iff.mp h
  rfl

theorem map_node_children (l : Located) : l.children.map (·.node) = l.node.children := by
  apply List.ext_getElem?
  intro i
  rw [List.getElem?_map, children_getElem?, Option.map_map]
  cases l.node.children[i]? <;> rfl

/-- The place of a child tells its parent's place and its index. -/
theorem place_eq_of_child_place_eq {a b c d : Located} {i j : Nat}
    (hc : a.children[i]? = some c) (hd : b.children[j]? = some d) (h : c.place = d.place) :
    a.place = b.place ∧ i = j := by
  rw [place_of_getElem?_children hc, place_of_getElem?_children hd] at h
  obtain ⟨hcopy, hpath⟩ := Place.mk.inj h
  obtain ⟨hpath, hlast⟩ := List.append_inj' hpath rfl
  refine ⟨?_, List.singleton_inj.mp hlast⟩
  cases ha : a.place
  cases hb : b.place
  simp_all

/-- Children of one node stand at different places. -/
theorem nodup_places_children (l : Located) : (l.children.map (·.place)).Nodup := by
  rw [List.Nodup, List.pairwise_map, List.pairwise_iff_getElem]
  intro i j hi hj hij heq
  have hindex := (place_eq_of_child_place_eq (List.getElem?_eq_getElem hi)
    (List.getElem?_eq_getElem hj) heq).2
  omega

theorem size_lt_of_mem_children {l child : Located} (h : child ∈ l.children) :
    child.node.size < l.node.size := by
  obtain ⟨before, after, hsplit⟩ := List.append_of_mem h
  have := l.size_eq_total_children
  rw [hsplit, total_append, total] at this
  omega

/-- Induction over a tree : a statement holds of a node when it holds of its children. -/
@[elab_as_elim]
theorem induction {motive : Located → Prop} (l : Located)
    (step : ∀ l : Located, (∀ child ∈ l.children, motive child) → motive l) : motive l :=
  step l fun child h =>
    have := size_lt_of_mem_children h
    induction child step
termination_by l.node.size

/-! ## Document order -/

theorem preorderFrom_eq_flatMap (place : Place) : ∀ (nodes : List Node) (first : Nat),
    preorderFrom place first nodes = (childrenFrom place first nodes).flatMap preorder
  | [], _ => by simp [preorderFrom, childrenFrom]
  | node :: rest, first => by
    rw [preorderFrom, childrenFrom, List.flatMap_cons, preorderFrom_eq_flatMap place rest]
    rfl

/-- A node stands before everything below it, and its children follow one after the other. -/
theorem preorder_eq (l : Located) : l.preorder = l :: l.children.flatMap preorder := by
  obtain ⟨place, node⟩ := l
  cases node with
  | element tag id classes nodes =>
    rw [children_element, ← preorderFrom_eq_flatMap]
    simp only [preorder, preorderAt]
  | text value => simp [preorder, preorderAt, children_text]

theorem self_mem_preorder (l : Located) : l ∈ l.preorder := by
  rw [preorder_eq]
  exact List.mem_cons_self

/-- The stack of pending nodes is worked off in document order. -/
theorem walk_eq_flatMap_preorder (pending : List Located) :
    walk pending = pending.flatMap preorder := by
  induction pending using walk.induct with
  | case1 => simp [walk]
  | case2 l pending ih => rw [walk, ih, List.flatMap_append, List.flatMap_cons, preorder_eq l,
      List.cons_append]

theorem descendants_eq_preorder (l : Located) : l.descendants = l.preorder := by
  rw [descendants, walk_eq_flatMap_preorder, List.flatMap_singleton]

theorem select?_eq_find? (tree : Located) (pred : Node → Bool) :
    tree.select? pred = tree.preorder.find? (pred ·.node) := by
  rw [select?, descendants_eq_preorder]

/-- The first node that satisfies a test is the root, or else the first one below the first child
that holds any. -/
theorem select?_eq_some_iff {tree l : Located} {test : Node → Bool} :
    tree.select? test = some l ↔ test tree.node = true ∧ tree = l ∨
      test tree.node = false ∧ ∃ before child after, tree.children = before ++ child :: after ∧
        (∀ other ∈ before, other.select? test = none) ∧ child.select? test = some l := by
  rw [select?_eq_find?, preorder_eq, List.find?_cons]
  cases htree : test tree.node with
  | true => simp
  | false =>
    simp only [Bool.false_eq_true, false_and, false_or, true_and, List.find?_flatMap,
      List.findSome?_eq_some_iff, ← select?_eq_find?]
    constructor
    · rintro ⟨before, child, after, hsplit, hchild, hbefore⟩
      exact ⟨before, child, after, hsplit, hbefore, hchild⟩
    · rintro ⟨before, child, after, hsplit, hbefore, hchild⟩
      exact ⟨before, child, after, hsplit, hchild, hbefore⟩

/-- `l` is the first node of the tree, in document order, of which `pred` holds. -/
def IsFirst (tree : Located) (pred : Node → Prop) (l : Located) : Prop :=
  ∃ before after, tree.preorder = before ++ l :: after ∧ pred l.node ∧
    ∀ other ∈ before, ¬pred other.node

theorem isFirst_iff {tree l : Located} {pred : Node → Prop} {test : Node → Bool}
    (htest : ∀ node, test node = true ↔ pred node) :
    IsFirst tree pred l ↔ tree.select? test = some l := by
  rw [IsFirst, select?_eq_find?, List.find?_eq_some_iff_append, htest]
  constructor
  · rintro ⟨before, after, hsplit, hl, hbefore⟩
    refine ⟨hl, before, after, hsplit, fun other hother => ?_⟩
    rw [Bool.not_eq_true', Bool.eq_false_iff, Ne, htest]
    exact hbefore other hother
  · rintro ⟨hl, before, after, hsplit, hbefore⟩
    refine ⟨before, after, hsplit, hl, fun other hother => ?_⟩
    rw [← htest]
    simpa using hbefore other hother

theorem IsFirst.mem_preorder {tree l : Located} {pred : Node → Prop} (h : IsFirst tree pred l) :
    l ∈ tree.preorder := by
  obtain ⟨before, after, hsplit, -⟩ := h
  rw [hsplit]
  exact List.mem_append_right _ List.mem_cons_self

theorem IsFirst.eq {tree a b : Located} {pred : Node → Prop} (ha : tree.IsFirst pred a)
    (hb : tree.IsFirst pred b) : a = b := by
  classical
  have htest (node : Node) : decide (pred node) = true ↔ pred node := decide_eq_true_iff
  rw [isFirst_iff htest] at ha hb
  exact Option.some.inj (ha.symm.trans hb)

/-- Below a child is below its parent. -/
theorem mem_preorder_of_mem_children {l child found : Located} (h : child ∈ l.children)
    (hfound : found ∈ child.preorder) : found ∈ l.preorder := by
  rw [preorder_eq]
  exact List.mem_cons_of_mem _ (List.mem_flatMap.mpr ⟨child, h, hfound⟩)

theorem child_mem_preorder {l child : Located} (h : child ∈ l.children) : child ∈ l.preorder :=
  mem_preorder_of_mem_children h (self_mem_preorder child)

/-- Below a node below another is below that one. -/
theorem mem_preorder_trans {inner l outer : Located} (hinner : inner ∈ l.preorder)
    (h : l ∈ outer.preorder) : inner ∈ outer.preorder := by
  induction outer using Located.induction with
  | step outer ih =>
    rw [preorder_eq] at h
    rcases List.mem_cons.mp h with rfl | h
    · exact hinner
    · obtain ⟨child, hchild, hl⟩ := List.mem_flatMap.mp h
      exact mem_preorder_of_mem_children hchild (ih child hchild hl)

theorem size_le_of_mem_preorder {l outer : Located} (h : l ∈ outer.preorder) :
    l.node.size ≤ outer.node.size := by
  induction outer using Located.induction with
  | step outer ih =>
    rw [preorder_eq] at h
    rcases List.mem_cons.mp h with rfl | h
    · exact Nat.le_refl _
    · obtain ⟨child, hchild, hl⟩ := List.mem_flatMap.mp h
      have hsize := size_lt_of_mem_children hchild
      have hbelow := ih child hchild hl
      omega

/-- A node is not below its own child. -/
theorem notMem_preorder_of_mem_children {l child : Located} (h : child ∈ l.children) :
    l ∉ child.preorder := by
  intro hl
  have hsize := size_lt_of_mem_children h
  have hbelow := size_le_of_mem_preorder hl
  omega

/-- A node of the tree is its root or a child of a node of the tree. -/
theorem eq_or_exists_parent {tree l : Located} (h : l ∈ tree.preorder) :
    l = tree ∨ ∃ parent ∈ tree.preorder, l ∈ parent.children := by
  induction tree using Located.induction with
  | step tree ih =>
    rw [preorder_eq] at h
    rcases List.mem_cons.mp h with rfl | h
    · exact Or.inl rfl
    · obtain ⟨child, hchild, hl⟩ := List.mem_flatMap.mp h
      rcases ih child hchild hl with rfl | ⟨parent, hparent, hl⟩
      · exact Or.inr ⟨tree, self_mem_preorder tree, hchild⟩
      · exact Or.inr ⟨parent, mem_preorder_of_mem_children hchild hparent, hl⟩

/-! ## Places -/

/-- The path of a node leads to it from the root. -/
theorem at?_of_mem_preorder {tree l : Located} (h : l ∈ tree.preorder) :
    ∃ path, l.place = ⟨tree.place.copy, tree.place.path ++ path⟩ ∧ tree.at? path = some l := by
  induction tree using Located.induction with
  | step tree ih =>
    rw [preorder_eq] at h
    rcases List.mem_cons.mp h with rfl | h
    · exact ⟨[], by simp, rfl⟩
    · obtain ⟨child, hchild, hl⟩ := List.mem_flatMap.mp h
      obtain ⟨i, hi⟩ := List.mem_iff_getElem?.mp hchild
      obtain ⟨path, hplace, hat⟩ := ih child hchild hl
      rw [place_of_getElem?_children hi] at hplace
      exact ⟨i :: path, by simpa using hplace, by simpa [at?, hi] using hat⟩

/-- Two nodes of a tree at one place are one node. -/
theorem eq_of_place_eq {tree a b : Located} (ha : a ∈ tree.preorder) (hb : b ∈ tree.preorder)
    (h : a.place = b.place) : a = b := by
  obtain ⟨p, hpa, hata⟩ := at?_of_mem_preorder ha
  obtain ⟨q, hqb, hatb⟩ := at?_of_mem_preorder hb
  have hpath : p = q := by simpa [hpa, hqb] using h
  rw [hpath, hatb] at hata
  exact (Option.some.inj hata).symm

theorem same_iff {a b : Located} : a.same b = true ↔ a.place = b.place := by
  rw [same, beq_iff_eq]

/-- Only one node of a tree has a child at a given place. -/
theorem eq_of_child_place_eq {tree a b c d : Located} (ha : a ∈ tree.preorder)
    (hb : b ∈ tree.preorder) (hc : c ∈ a.children) (hd : d ∈ b.children)
    (h : c.place = d.place) : a = b := by
  obtain ⟨i, hi⟩ := List.mem_iff_getElem?.mp hc
  obtain ⟨j, hj⟩ := List.mem_iff_getElem?.mp hd
  exact eq_of_place_eq ha hb (place_eq_of_child_place_eq hi hj h).1

/-- What is looked up is a node of the tree with a child at the place. -/
theorem exists_child_of_parent? {tree parent l : Located} (h : tree.parent? l = some parent) :
    parent ∈ tree.preorder ∧ ∃ child ∈ parent.children, child.place = l.place := by
  rw [parent?, descendants_eq_preorder] at h
  have hany : parent.children.any (·.same l) = true := by simpa using List.find?_some h
  obtain ⟨child, hchild, hsame⟩ := List.any_eq_true.mp hany
  exact ⟨List.mem_of_find?_eq_some h, child, hchild, same_iff.mp hsame⟩

/-- The parent looked up by place is the node of the tree that holds the child. -/
theorem parent?_eq_some {tree parent l : Located} (hparent : parent ∈ tree.preorder)
    (h : l ∈ parent.children) : tree.parent? l = some parent := by
  cases hfind : tree.parent? l with
  | none =>
    have hself : parent.children.any (·.same l) = true :=
      List.any_eq_true.mpr ⟨l, h, same_iff.mpr rfl⟩
    rw [parent?, descendants_eq_preorder, List.find?_eq_none] at hfind
    exact absurd hself (hfind parent hparent)
  | some owner =>
    obtain ⟨howner, child, hchild, hplace⟩ := exists_child_of_parent? hfind
    rw [eq_of_child_place_eq howner hparent hchild h hplace]

/-- The root has no parent : every child's path is longer than the root's. -/
theorem parent?_self (tree : Located) : tree.parent? tree = none := by
  rw [parent?, descendants_eq_preorder, List.find?_eq_none]
  intro parent hparent hany
  obtain ⟨child, hchild, hsame⟩ := List.any_eq_true.mp hany
  obtain ⟨i, hi⟩ := List.mem_iff_getElem?.mp hchild
  obtain ⟨path, hplace, -⟩ := at?_of_mem_preorder hparent
  have hpath := congrArg (fun p : Place => p.path.length) (same_iff.mp hsame)
  simp only [place_of_getElem?_children hi, hplace, List.length_append] at hpath
  simp at hpath
  omega

/-- No parent is found for the root, and for what stands nowhere in the tree, whatever node it
is. -/
theorem parent?_eq_none_iff {tree l : Located} : tree.parent? l = none ↔
    l.place = tree.place ∨ ∀ other ∈ tree.preorder, other.place ≠ l.place := by
  constructor
  · intro h
    by_cases hroot : l.place = tree.place
    · exact Or.inl hroot
    · refine Or.inr fun other hother hplace => ?_
      rcases eq_or_exists_parent hother with rfl | ⟨parent, hparent, hchild⟩
      · exact hroot hplace.symm
      · rw [parent?, descendants_eq_preorder, List.find?_eq_none] at h
        exact h parent hparent (List.any_eq_true.mpr ⟨other, hchild, same_iff.mpr hplace⟩)
  · intro h
    rw [Option.eq_none_iff_forall_ne_some]
    intro parent hfind
    obtain ⟨hparent, child, hchild, hplace⟩ := exists_child_of_parent? hfind
    have hmem : child ∈ tree.preorder :=
      mem_preorder_trans (child_mem_preorder hchild) hparent
    rcases h with hroot | hnowhere
    · -- a child at the place of the root would be the root, which has no parent
      have hself : child = tree :=
        eq_of_place_eq hmem (self_mem_preorder tree) (hplace.trans hroot)
      have hsome := parent?_eq_some hparent hchild
      rw [hself, parent?_self] at hsome
      cases hsome
    · exact hnowhere child hmem hplace

end PageRecipe.Located
