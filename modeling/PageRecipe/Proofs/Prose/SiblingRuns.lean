import PageRecipe.Proofs.Prose.Sections

/-!
# Runs in the child list of a node

`Run.after` and `Run.ofSection` cut runs out of the siblings of a node, each with a scan of its
own. A node that is not the root stands in one child list only, told by its place and not by what
it looks like (`exists_ownSiblings`), and both cut that list : what is after the node is the
longest run of its later siblings without a stop (`isLongestRun_iff`), and a section is the node
followed by such a run, where a heading of no greater rank stops. The root and a node that stands
nowhere in the tree have no siblings, even if the tree holds an equal copy
(`siblingsFrom_eq_nil`). `cut_own_siblings` puts this together.
-/

namespace PageRecipe.Run

open Located

/-! ## The longest run -/

/-- The longest run of nodes at the front of some siblings that holds no stop. -/
structure IsLongestRun (stop : Node → Bool) (siblings run : List Located) : Prop where
  front : run <+: siblings
  free : ∀ l ∈ run, stop l.node = false
  longest : ∀ other, other <+: siblings → (∀ l ∈ other, stop l.node = false) → other <+: run

theorem isLongestRun_takeWhile (stop : Node → Bool) (siblings : List Located) :
    IsLongestRun stop siblings (siblings.takeWhile fun l => !stop l.node) where
  front := List.takeWhile_prefix _
  free _ hl := stop_eq_false_of_mem_takeWhile hl
  longest other hother hfree := by
    obtain ⟨rest, rfl⟩ := hother
    rw [List.takeWhile_append_of_pos fun l hl => by simp [hfree l hl]]
    exact List.prefix_append other _

/-- There is one longest run, and a scan up to the first stop finds it. -/
theorem isLongestRun_iff {stop : Node → Bool} {siblings run : List Located} :
    IsLongestRun stop siblings run ↔ (siblings.takeWhile fun l => !stop l.node) = run := by
  have hscan := isLongestRun_takeWhile stop siblings
  constructor
  · intro h
    have hle := h.longest _ hscan.front hscan.free
    have hge := hscan.longest _ h.front h.free
    exact hle.eq_of_length_le hge.length_le
  · rintro rfl
    exact hscan

/-! ## The child list of a node -/

/-- The children of `parent`, a node of the tree, are `before`, `start` and `later`, and no other
node of the tree has a child at the place of `start`. -/
structure OwnSiblings (tree parent start : Located) (before later : List Located) : Prop where
  mem_tree : parent ∈ tree.preorder
  split : parent.children = before ++ start :: later
  only : ∀ other ∈ tree.preorder, (∃ l ∈ other.children, l.place = start.place) → other = parent

theorem exists_ownSiblings {tree start : Located} (h : start ∈ tree.preorder)
    (hroot : start ≠ tree) : ∃ parent before later, OwnSiblings tree parent start before later := by
  rcases eq_or_exists_parent h with rfl | ⟨parent, hparent, hchild⟩
  · exact absurd rfl hroot
  · obtain ⟨before, later, hsplit⟩ := List.append_of_mem hchild
    refine ⟨parent, before, later, hparent, hsplit, ?_⟩
    rintro other hother ⟨l, hl, hplace⟩
    exact eq_of_child_place_eq hother hparent hl hchild hplace

theorem siblingsFrom_eq_nil {tree start : Located}
    (h : start.place = tree.place ∨ ∀ l ∈ tree.preorder, l.place ≠ start.place) :
    siblingsFrom start tree = [] := by
  rw [siblingsFrom, parent?_eq_none_iff.mpr h]

/-! ## Headings that stop a section -/

/-- The node is a heading whose rank number is at most `rank`. -/
def isHeadingUpTo (rank : Nat) (node : Node) : Bool := node.headingRank?.any (· ≤ rank)

theorem endsSection_some (rank : Nat) : endsSection (some rank) = isHeadingUpTo rank := by
  funext node
  cases hnode : node.headingRank? <;> simp [endsSection, isHeadingUpTo, hnode]

section Cut

variable {tree parent start : Located} {before later : List Located}

theorem OwnSiblings.nodes_after (h : OwnSiblings tree parent start before later)
    (stop : Node → Bool) :
    (Run.after start stop tree).nodes = later.takeWhile fun l => !stop l.node := by
  rw [after_of_split stop h.mem_tree h.split]

/-- A heading owns the siblings after it up to the next heading of no greater rank. -/
theorem OwnSiblings.nodes_ofSection_of_rank (h : OwnSiblings tree parent start before later)
    {rank : Nat} (hrank : start.node.headingRank? = some rank) :
    (ofSection start tree).nodes = start :: (Run.after start (isHeadingUpTo rank) tree).nodes := by
  rw [h.nodes_after, ofSection_of_split h.mem_tree h.split, hrank, endsSection_some]

/-- A node that is no heading owns all siblings after it. -/
theorem OwnSiblings.nodes_ofSection_of_noHeading (h : OwnSiblings tree parent start before later)
    (hstart : start.node.isHeading = false) : (ofSection start tree).nodes = start :: later := by
  have hrank : start.node.headingRank? = none := by simpa [Node.isHeading] using hstart
  have hall : (later.takeWhile fun _ => !false) = later := by
    rw [← h.nodes_after fun _ => false, after_of_split_of_noStop h.mem_tree h.split]
  rw [ofSection_of_split h.mem_tree h.split, hrank]
  exact congrArg (start :: ·) hall

end Cut

/-- A node below a tree has its siblings in one child list, and the runs from it are cut out of
that list : what is after it is the longest run of later siblings without a stop, the section of a
heading is the heading with such a run up to a heading of no greater rank, and the section of any
other node reaches to the end. From the root, and from what stands nowhere in the tree, whatever
node it is, the runs are empty. -/
theorem cut_own_siblings (tree start : Located) :
    (start ∈ tree.preorder → start ≠ tree →
      ∃ parent before later, OwnSiblings tree parent start before later ∧
        (∀ stop run, (Run.after start stop tree).nodes = run ↔ IsLongestRun stop later run) ∧
        (∀ rank, start.node.headingRank? = some rank → (ofSection start tree).nodes =
          start :: (Run.after start (isHeadingUpTo rank) tree).nodes) ∧
        (start.node.isHeading = false → (ofSection start tree).nodes = start :: later)) ∧
    ((start.place = tree.place ∨ ∀ l ∈ tree.preorder, l.place ≠ start.place) →
      (∀ stop, Run.after start stop tree = empty) ∧ ofSection start tree = empty) := by
  constructor
  · intro hstart hroot
    obtain ⟨parent, before, later, hown⟩ := exists_ownSiblings hstart hroot
    refine ⟨parent, before, later, hown, fun stop run => ?_, fun rank => ?_, ?_⟩
    · rw [hown.nodes_after stop, isLongestRun_iff]
    · exact hown.nodes_ofSection_of_rank
    · exact hown.nodes_ofSection_of_noHeading
  · intro h
    have hnone := siblingsFrom_eq_nil h
    exact ⟨fun stop => by simp [Run.after, hnone, empty], by rw [ofSection, hnone]⟩

/-- A page that quotes one passage twice. The second time a paragraph follows. -/
def twinPage : Node :=
  .branch "body" [
    .branch "blockquote" [.heading 2 "A", .branch "p" [], .heading 3 "B", .heading 2 "A"],
    .branch "blockquote" [.heading 2 "A", .branch "p" [], .heading 3 "B", .branch "p" [.text "x"],
      .heading 2 "A"]]

/-- The second passage is cut where it stands, and a copy of its heading has no siblings. -/
theorem cut_twinPage :
    ∃ start ∈ (root twinPage 0).preorder, start ≠ root twinPage 0 ∧
      start.node = .heading 2 "A" ∧
      (ofSection start (root twinPage 0)).nodes =
        start :: (Run.after start (isHeadingUpTo 2) (root twinPage 0)).nodes ∧
      (ofSection start (root twinPage 0)).nodes.map (·.place.path) =
        [[1, 0], [1, 1], [1, 2], [1, 3]] ∧
      ofSection ⟨⟨1, start.place.path⟩, start.node⟩ (root twinPage 0) = empty := by
  have hmem : (root twinPage 0).children[1].children[0] ∈ (root twinPage 0).preorder :=
    mem_preorder_trans (child_mem_preorder (List.getElem_mem _))
      (child_mem_preorder (List.getElem_mem _))
  have hne : (root twinPage 0).children[1].children[0] ≠ root twinPage 0 := by
    intro heq
    have hpath := congrArg (·.place.path) heq
    cases hpath
  obtain ⟨parent, before, later, -, -, hsection, -⟩ := (cut_own_siblings _ _).1 hmem hne
  refine ⟨_, hmem, hne, rfl, hsection 2 (by decide), by decide +kernel, ?_⟩
  refine ((cut_own_siblings _ _).2 (Or.inr fun l hl hplace => ?_)).2
  obtain ⟨path, hcopy, -⟩ := at?_of_mem_preorder hl
  rw [hcopy] at hplace
  cases hplace

end PageRecipe.Run
