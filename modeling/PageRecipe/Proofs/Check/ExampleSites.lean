import Mathlib.Data.List.Basic
import PageRecipe.Check.InteractiveExample
import PageRecipe.Proofs.Prose.Sections

/-!
# Where examples are embedded

`InteractiveExample.sites` collects invocations with the nodes that hold them by a recursion
of its own. It finds exactly the example nodes of the document order, each once and in order
(`map_invocation_sites`).
-/

namespace PageRecipe.InteractiveExample

open Located

variable {ctx : Context}

/-- The nodes that embed an example, among the tops and everything below them, in document
order. -/
def examplesIn (ctx : Context) (tops : List Located) : List Located :=
  (tops.flatMap preorder).filter fun l => isExample ctx l.node

@[simp]
theorem examplesIn_nil : examplesIn ctx [] = [] := rfl

@[simp]
theorem examplesIn_append (a b : List Located) :
    examplesIn ctx (a ++ b) = examplesIn ctx a ++ examplesIn ctx b := by
  rw [examplesIn, List.flatMap_append, List.filter_append, examplesIn, examplesIn]

theorem examplesIn_cons (top : Located) (rest : List Located) :
    examplesIn ctx (top :: rest) =
      (if isExample ctx top.node then [top] else []) ++ examplesIn ctx top.children ++
        examplesIn ctx rest := by
  rw [examplesIn, List.flatMap_cons, preorder_eq, List.filter_append, List.filter_cons]
  by_cases h : isExample ctx top.node = true <;> simp [examplesIn, h]

theorem isExample_of_mem_examplesIn {tops : List Located} {l : Located}
    (h : l ∈ examplesIn ctx tops) : isExample ctx l.node = true :=
  (List.mem_filter.mp h).2

/-- A text has no children, so an example is nowhere below an example. -/
theorem children_of_isExample {node : Node} (h : isExample ctx node = true) :
    node.children = [] := by
  cases node with
  | element => simp [isExample, Node.isMacro, Node.macroName?] at h
  | text value => rfl

theorem children_eq_nil_of_isExample {l : Located} (h : isExample ctx l.node = true) :
    l.children = [] := by
  have hnodes := map_node_children l
  simpa [children_of_isExample h] using hnodes

theorem isExample_eq_false_of_mem_children {l child : Located} (h : child ∈ l.children) :
    isExample ctx l.node = false := by
  cases hl : isExample ctx l.node with
  | false => rfl
  | true =>
    rw [children_eq_nil_of_isExample hl] at h
    cases h

/-- An example below a node is below what that node is below. -/
theorem examplesIn_subset {inner tops : List Located}
    (h : ∀ l ∈ inner, ∃ top ∈ tops, l ∈ top.preorder) :
    examplesIn ctx inner ⊆ examplesIn ctx tops := by
  intro found hfound
  obtain ⟨hmem, hexample⟩ := List.mem_filter.mp hfound
  obtain ⟨l, hl, hbelow⟩ := List.mem_flatMap.mp hmem
  obtain ⟨top, htop, hltop⟩ := h l hl
  exact List.mem_filter.mpr
    ⟨List.mem_flatMap.mpr ⟨top, htop, mem_preorder_trans hbelow hltop⟩, hexample⟩

/-- The sites at one child and below it. -/
def sitesAt (ctx : Context) (container : Option Located) (child : Located) : List Site :=
  (if isExample ctx child.node then [⟨container, child⟩] else []) ++
    sitesBelow ctx child.place child.node

theorem sitesAmong_eq_flatMap (holder : Located) : ∀ (nodes : List Node) (first : Nat),
    sitesAmong ctx holder first nodes =
      (childrenFrom holder.place first nodes).flatMap (sitesAt ctx (some holder))
  | [], _ => by simp [sitesAmong, childrenFrom]
  | node :: rest, first => by
    rw [sitesAmong, childrenFrom, List.flatMap_cons, sitesAmong_eq_flatMap holder rest]
    rfl

theorem sitesBelow_eq_flatMap (l : Located) :
    sitesBelow ctx l.place l.node = l.children.flatMap (sitesAt ctx (some l)) := by
  obtain ⟨place, node⟩ := l
  cases node with
  | element tag id classes nodes => rw [sitesBelow, sitesAmong_eq_flatMap, children_element]
  | text value => rw [sitesBelow, children_text, List.flatMap_nil]

theorem map_invocation_sitesBelow (l : Located) :
    (sitesBelow ctx l.place l.node).map (·.invocation) = examplesIn ctx l.children := by
  induction l using Located.induction with
  | step l ih =>
    have hat : ∀ child ∈ l.children,
        (sitesAt ctx (some l) child).map (·.invocation) = examplesIn ctx [child] := by
      intro child hchild
      rw [sitesAt, List.map_append, ih child hchild, examplesIn_cons]
      by_cases h : isExample ctx child.node = true <;> simp [h]
    rw [sitesBelow_eq_flatMap, List.map_flatMap, List.flatMap_congr hat]
    simp [examplesIn, List.filter_flatMap]

/-- The invocations of a run are its example nodes, in document order. -/
theorem map_invocation_sites (run : Run) :
    (sites ctx run).map (·.invocation) = examplesIn ctx run.nodes := by
  have hat : ∀ top ∈ run.nodes,
      (sitesOfTop ctx top).map (·.invocation) = examplesIn ctx [top] := by
    intro top _
    rw [sitesOfTop, List.map_append, map_invocation_sitesBelow, examplesIn_cons]
    by_cases h : isExample ctx top.node = true <;> simp [h]
  rw [sites, List.map_flatMap, List.flatMap_congr hat]
  simp [examplesIn, List.filter_flatMap]

theorem length_sites (run : Run) : (sites ctx run).length = (examplesIn ctx run.nodes).length := by
  rw [← map_invocation_sites, List.length_map]

end PageRecipe.InteractiveExample
