import PageRecipe.Prose.Selection

/-!
# Runs of siblings

Sections are carved out of the child list that holds their first node and never cross a
nesting boundary. `Run.ofSection` is a heading with what it owns, `Run.after` is what
follows a node up to a stop. Both find the child list by the place of the start node, and
both are empty when the start is not below the tree that is searched.
-/

namespace PageRecipe

/-- Some consecutive nodes of one child list. -/
structure Run where
  nodes : List Located
  deriving Inhabited, Repr

namespace Run

/-- The run without nodes. -/
def empty : Run := ⟨[]⟩

/-- Every node of the run and below it, in document order. -/
def descendants (run : Run) : List Located := run.nodes.flatMap Located.descendants

/-- The nodes of the run and below it that satisfy `pred`, in document order. -/
def selectAll (run : Run) (pred : Node → Bool) : List Located :=
  run.descendants.filter (pred ·.node)

/-- The leading nodes of the run for which `pred` holds. -/
def takeWhile (run : Run) (pred : Node → Bool) : Run := ⟨run.nodes.takeWhile (pred ·.node)⟩

/-- The nodes of the run that are not blank texts. -/
def significant (run : Run) : List Located := run.nodes.filter fun l => !l.node.isBlankText

/-- The nodes of the run as the children of a `section` element. -/
def toNode (run : Run) : Node := .branch "section" (run.nodes.map (·.node))

/-- How a run is named in a finding : by its first node. -/
def display (run : Run) : String :=
  match run.nodes with
  | first :: _ => "section(" ++ first.node.display ++ ")"
  | [] => "section"

/-- The nodes from the one at the place of `start` on. -/
def fromStart (start : Located) (siblings : List Located) : List Located :=
  siblings.dropWhile fun l => !l.same start

/-- The start node and the siblings after it, in the child list below `tree` that holds it. -/
def siblingsFrom (start tree : Located) : List Located :=
  match tree.parent? start with
  | some parent => fromStart start parent.children
  | none => []

/-- A node that ends the section of a heading of rank `own` : a heading of equal or higher
standing. Without a rank nothing ends the section. -/
def endsSection (own : Option Nat) (node : Node) : Bool :=
  match own, node.headingRank? with
  | some own, some other => decide (other ≤ own)
  | _, _ => false

/-- The section that a heading owns : the heading and the siblings after it, up to the next
heading of equal or higher standing. -/
def ofSection (start tree : Located) : Run :=
  match siblingsFrom start tree with
  | first :: rest =>
    ⟨first :: rest.takeWhile fun l => !endsSection start.node.headingRank? l.node⟩
  | [] => empty

/-- The siblings after `start`, up to the first one that satisfies `stop`. -/
def after (start : Located) (stop : Node → Bool) (tree : Located) : Run :=
  ⟨(siblingsFrom start tree).tail.takeWhile fun l => !stop l.node⟩

end Run

end PageRecipe
