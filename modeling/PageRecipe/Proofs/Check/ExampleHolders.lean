import Mathlib.Data.List.Flatten
import PageRecipe.Proofs.Check.ExampleSites
import PageRecipe.Proofs.Prose.Traversal

/-!
# Who holds an example

`InteractiveExample.sites` goes down a run with a recursion of its own and notes the parent of each
invocation that it meets. A search of the run by its traversal meets the same invocations, and below
each top the parent of a node is the one that is looked up there (`sites_eq_flatMap`). So the two
agree on every run, and tops have no holder.

The tops of a run are children of one node of a tree (`Run.IsOfSiblings`), as those of a section
are (`Run.isOfSiblings_ofSection`). No top is below another one then, so no invocation is met twice,
and the holder of each that is no top is its owner in the tree (`sites_eq_selectAll`).
-/

namespace PageRecipe

/-! ## Runs of siblings -/

namespace Located

/-- Below a node of a tree, a parent is looked up as in the tree. -/
theorem parent?_eq_of_mem_preorder {outer inner l : Located} (hinner : inner ∈ outer.preorder)
    (hl : l ∈ inner.preorder) (hne : l ≠ inner) : outer.parent? l = inner.parent? l := by
  rcases eq_root_or_isOwner hl with ⟨heq, -⟩ | ⟨owner, howner, hparent⟩
  · exact absurd heq hne
  · rw [hparent]
    exact parent?_eq_some (mem_preorder_trans howner.mem_tree hinner) howner.mem_children

/-- No child is below another one. -/
theorem eq_of_mem_children_of_mem_preorder {parent a b : Located} (ha : a ∈ parent.children)
    (hb : b ∈ parent.children) (hbelow : b ∈ a.preorder) : b = a := by
  obtain ⟨i, hi⟩ := List.mem_iff_getElem?.mp ha
  obtain ⟨j, hj⟩ := List.mem_iff_getElem?.mp hb
  obtain ⟨path, hplace⟩ := exists_path_of_mem_child_preorder hi hbelow
  rw [place_of_getElem?_children hj, Place.mk.injEq] at hplace
  obtain ⟨rfl, -⟩ := List.cons.inj (List.append_cancel_left hplace.2)
  exact Option.some.inj (hj.symm.trans hi)

end Located

namespace Run

open Located

/-- The tops of the run are children of one node of the tree, in their order. -/
def IsOfSiblings (tree : Located) (run : Run) : Prop :=
  ∃ parent ∈ tree.preorder, run.nodes.Sublist parent.children

theorem isOfSiblings_siblingsFrom (start tree : Located) :
    IsOfSiblings tree ⟨siblingsFrom start tree⟩ := by
  rw [siblingsFrom]
  split
  · next parent hparent =>
    exact ⟨parent, (exists_child_of_parent? hparent).1, List.dropWhile_sublist _⟩
  · exact ⟨tree, self_mem_preorder tree, List.nil_sublist _⟩

theorem IsOfSiblings.of_sublist {tree : Located} {run other : Run} (h : run.IsOfSiblings tree)
    (hother : other.nodes.Sublist run.nodes) : other.IsOfSiblings tree := by
  obtain ⟨parent, hparent, hrun⟩ := h
  exact ⟨parent, hparent, hother.trans hrun⟩

theorem isOfSiblings_ofSection (start tree : Located) :
    (ofSection start tree).IsOfSiblings tree := by
  refine (isOfSiblings_siblingsFrom start tree).of_sublist ?_
  rw [ofSection]
  split
  · next first rest hsiblings =>
    rw [hsiblings]
    exact (List.takeWhile_sublist _).cons_cons first
  · exact List.nil_sublist _

/-- Of the tops of a run of siblings none is below another one. -/
theorem IsOfSiblings.eq_of_mem_preorder {tree a b : Located} {run : Run} (h : run.IsOfSiblings tree)
    (ha : a ∈ run.nodes) (hb : b ∈ run.nodes) (hbelow : b ∈ a.preorder) : b = a := by
  obtain ⟨parent, -, hrun⟩ := h
  exact eq_of_mem_children_of_mem_preorder (hrun.subset ha) (hrun.subset hb) hbelow

theorem IsOfSiblings.mem_preorder {tree top : Located} {run : Run} (h : run.IsOfSiblings tree)
    (htop : top ∈ run.nodes) : top ∈ tree.preorder := by
  obtain ⟨parent, hparent, hrun⟩ := h
  exact mem_preorder_trans (child_mem_preorder (hrun.subset htop)) hparent

/-- Nothing is met twice on a walk through a run of siblings. -/
theorem IsOfSiblings.nodup_places {tree : Located} {run : Run} (h : run.IsOfSiblings tree) :
    ((run.nodes.flatMap preorder).map (·.place)).Nodup := by
  obtain ⟨parent, -, hrun⟩ := h
  have hwhole := nodup_places_preorder parent
  rw [preorder_eq] at hwhole
  exact hwhole.sublist (((hrun.flatMap preorder).cons parent).map _)

end Run

namespace InteractiveExample

open Located

variable {ctx : Context}

/-! ## Holders -/

/-- An example with the node that is looked up as its parent below a top. -/
def siteBelow (top l : Located) : Site := ⟨top.parent? l, l⟩

theorem ne_of_mem_examplesIn_children {l e : Located} (h : e ∈ examplesIn ctx l.children) :
    e ∈ l.preorder ∧ e ≠ l := by
  obtain ⟨child, hchild, hbelow⟩ := List.mem_flatMap.mp (List.mem_filter.mp h).1
  refine ⟨mem_preorder_of_mem_children hchild hbelow, ?_⟩
  rintro rfl
  exact notMem_preorder_of_mem_children hchild hbelow

/-- If the sites below a node are noted as its parents are looked up, so are those at it and below
it in a tree that it stands in. -/
theorem sitesAt_eq_map {outer inner : Located} (hinner : inner ∈ outer.preorder)
    (hbelow : sitesBelow ctx inner.place inner.node =
      (examplesIn ctx inner.children).map (siteBelow inner)) :
    sitesAt ctx (outer.parent? inner) inner = (examplesIn ctx [inner]).map (siteBelow outer) := by
  have hsame : ∀ e ∈ examplesIn ctx inner.children, siteBelow inner e = siteBelow outer e := by
    intro e he
    obtain ⟨hmem, hne⟩ := ne_of_mem_examplesIn_children he
    rw [siteBelow, siteBelow, parent?_eq_of_mem_preorder hinner hmem hne]
  rw [sitesAt, hbelow, List.map_congr_left hsame, examplesIn_cons, examplesIn_nil, List.append_nil,
    List.map_append]
  by_cases h : isExample ctx inner.node = true <;> simp [h, siteBelow]

theorem sitesBelow_eq_map (l : Located) :
    sitesBelow ctx l.place l.node = (examplesIn ctx l.children).map (siteBelow l) := by
  induction l using Located.induction with
  | step l ih =>
    have hat : ∀ child ∈ l.children, sitesAt ctx (some l) child =
        (examplesIn ctx [child]).map (siteBelow l) := by
      intro child hchild
      rw [← parent?_eq_some (self_mem_preorder l) hchild]
      exact sitesAt_eq_map (child_mem_preorder hchild) (ih child hchild)
    rw [sitesBelow_eq_flatMap, List.flatMap_congr hat]
    simp [examplesIn, List.filter_flatMap, List.map_flatMap]

/-- The sites of a run are the invocations that a search finds below each top, each with the parent
that is looked up there. A top has none. -/
theorem sites_eq_flatMap (run : Run) : sites ctx run =
    run.nodes.flatMap fun top => (top.selectAll (isExample ctx)).map (siteBelow top) := by
  refine List.flatMap_congr fun top _ => ?_
  have hfound : examplesIn ctx [top] = top.selectAll (isExample ctx) := by
    rw [Located.selectAll, descendants_eq_preorder, examplesIn, List.flatMap_singleton]
  have hat := sitesAt_eq_map (self_mem_preorder top) (@sitesBelow_eq_map ctx top)
  rw [parent?_self, hfound] at hat
  exact hat

theorem map_invocation_sites_eq_selectAll (run : Run) :
    (sites ctx run).map (·.invocation) = run.selectAll (isExample ctx) := by
  have hdescendants : run.descendants = run.nodes.flatMap preorder :=
    List.flatMap_congr fun top _ => descendants_eq_preorder top
  rw [map_invocation_sites, Run.selectAll, hdescendants]
  rfl

/-- In a run of siblings an invocation is a top and has no holder, or it is none and is held by its
owner in the tree. -/
theorem holder_of_isOfSiblings {tree : Located} {run : Run} (h : run.IsOfSiblings tree)
    {site : Site} (hsite : site ∈ sites ctx run) :
    site.invocation ∈ run.nodes ∧ site.container = none ∨
      site.invocation ∉ run.nodes ∧ ∃ owner, IsOwner tree owner site.invocation ∧
        site.container = some owner := by
  rw [sites_eq_flatMap] at hsite
  obtain ⟨top, htop, hsite⟩ := List.mem_flatMap.mp hsite
  obtain ⟨l, hl, rfl⟩ := List.mem_map.mp hsite
  rw [Located.selectAll, descendants_eq_preorder] at hl
  have hbelow := (List.mem_filter.mp hl).1
  rcases eq_root_or_isOwner hbelow with ⟨rfl, hnone⟩ | ⟨owner, howner, hsome⟩
  · exact Or.inl ⟨htop, hnone⟩
  · refine Or.inr ⟨fun hmem => ?_, owner, ?_, hsome⟩
    · have htop : l = top := h.eq_of_mem_preorder htop hmem hbelow
      subst htop
      exact notMem_preorder_of_mem_children howner.mem_children howner.mem_tree
    · exact isOwner_of_mem_children (mem_preorder_trans howner.mem_tree (h.mem_preorder htop))
        howner.mem_children

/-- The sites of a run are the invocations that a search of the run finds, in document order, and
each is noted with its parent, or without one where it is met as a top. In a run of siblings no
invocation is met twice, and the tops are the invocations without a holder. -/
theorem sites_eq_selectAll (ctx : Context) (run : Run) :
    (sites ctx run).map (·.invocation) = run.selectAll (·.isMacro ctx.exampleMacro) ∧
    sites ctx run = run.nodes.flatMap (fun top =>
      (top.selectAll (·.isMacro ctx.exampleMacro)).map fun l => ⟨top.parent? l, l⟩) ∧
    ∀ tree, run.IsOfSiblings tree →
      ((sites ctx run).map (·.invocation.place)).Nodup ∧
      ∀ site ∈ sites ctx run,
        site.invocation ∈ run.nodes ∧ site.container = none ∨
        site.invocation ∉ run.nodes ∧ ∃ owner, IsOwner tree owner site.invocation ∧
          site.container = some owner := by
  refine ⟨map_invocation_sites_eq_selectAll run, sites_eq_flatMap run, fun tree h =>
    ⟨?_, fun site hsite => holder_of_isOfSiblings h hsite⟩⟩
  have hplaces : (sites ctx run).map (·.invocation.place) =
      (examplesIn ctx run.nodes).map (·.place) := by
    rw [← map_invocation_sites, List.map_map]
    rfl
  rw [hplaces]
  exact h.nodup_places.sublist (List.filter_sublist.map _)

/-- A page with examples beside a division, in it, and further down in it. -/
def heldExamplesPage : Node :=
  .branch "body" [.text "\x7b\x7bExample\x7d\x7d",
    .branch "div" [.text "\x7b\x7bExample\x7d\x7d", .branch "p" [.text "\x7b\x7bExample\x7d\x7d"]]]

/-- The section of the first example is all that is in the body, and the body is no part of it, so
it holds none of the examples. -/
theorem sites_heldExamplesPage :
    (Run.ofSection (root heldExamplesPage 0).children[0] (root heldExamplesPage 0)).IsOfSiblings
        (root heldExamplesPage 0) ∧
      ((sites ⟨⟨[]⟩, "Example"⟩ (Run.ofSection (root heldExamplesPage 0).children[0]
        (root heldExamplesPage 0))).map (·.invocation.place)).Nodup ∧
      (sites ⟨⟨[]⟩, "Example"⟩ (Run.ofSection (root heldExamplesPage 0).children[0]
        (root heldExamplesPage 0))).map (·.container.map (·.node.display)) =
          [none, some "div", some "p"] := by
  have hsiblings :=
    Run.isOfSiblings_ofSection (root heldExamplesPage 0).children[0] (root heldExamplesPage 0)
  have hnodup := ((sites_eq_selectAll ⟨⟨[]⟩, "Example"⟩ _).2.2 _ hsiblings).1
  exact ⟨hsiblings, hnodup, by decide +kernel⟩

end InteractiveExample

end PageRecipe
