import PageRecipe.Prose.Node

/-!
# Selecting nodes

A node is found again in its tree by its place, so a selection returns nodes together with
their places (`Located`). `descendants` walks a tree with a stack of pending nodes and
`preorder` by recursion ; both give the document order. `select?`, `selectAll` and
`parent?` search it.
-/

namespace PageRecipe

/-- The place of a node : the copy of a tree it belongs to, and the child indices that lead
to it from that tree's root. Equal trees that are different copies share no place. -/
structure Place where
  copy : Nat
  path : List Nat
  deriving DecidableEq, Repr, Inhabited

/-- A node at its place. -/
structure Located where
  place : Place
  node : Node
  deriving Inhabited, Repr

namespace Located

/-- The root of a copy of a tree. -/
def root (node : Node) (copy : Nat) : Located := ⟨⟨copy, []⟩, node⟩

/-- The nodes of a list as the children at a place, counted from `first`. -/
def childrenFrom (place : Place) (first : Nat) : List Node → List Located
  | [] => []
  | node :: rest =>
    ⟨⟨place.copy, place.path ++ [first]⟩, node⟩ :: childrenFrom place (first + 1) rest

/-- The children at their places. -/
def children (located : Located) : List Located :=
  childrenFrom located.place 0 located.node.children

/-- Both stand at the same place of the same copy. -/
def same (a b : Located) : Bool := a.place == b.place

theorem children_text (place : Place) (value : String) :
    children ⟨place, .text value⟩ = [] := rfl

theorem children_element (place : Place) (tag : String) (id : Option String)
    (classes : List String) (nodes : List Node) :
    children ⟨place, .element tag id classes nodes⟩ = childrenFrom place 0 nodes := rfl

/-- How many nodes the trees of a list have together. -/
def total : List Located → Nat
  | [] => 0
  | located :: rest => located.node.size + total rest

theorem total_append (a b : List Located) : total (a ++ b) = total a + total b := by
  induction a with
  | nil => simp [total]
  | cons x xs ih => simp [total, ih, Nat.add_assoc]

theorem total_childrenFrom (place : Place) (first : Nat) (nodes : List Node) :
    total (childrenFrom place first nodes) = Node.sizes nodes := by
  induction nodes generalizing first with
  | nil => simp [childrenFrom, total, Node.sizes]
  | cons node rest ih => simp [childrenFrom, total, Node.sizes, ih]

/-- A node has one node more than its children have together. -/
theorem size_eq_total_children (located : Located) :
    located.node.size = total located.children + 1 := by
  rcases located with ⟨place, node⟩
  cases node with
  | element tag id classes nodes =>
    rw [children_element, total_childrenFrom, Node.size]
  | text value => simp [children_text, total, Node.size]

/-! ## Document order -/

/-- Visits the pending nodes, the first one's children before the others. -/
def walk : List Located → List Located
  | [] => []
  | located :: pending => located :: walk (located.children ++ pending)
termination_by pending => total pending
decreasing_by
  simp only [total_append, total, size_eq_total_children located]
  omega

/-- The node and everything below it, in document order. -/
def descendants (located : Located) : List Located := walk [located]

mutual

/-- The node at a place followed by the traversals of its children, by recursion. -/
def preorderAt (place : Place) : Node → List Located
  | .element tag id classes nodes =>
    ⟨place, .element tag id classes nodes⟩ :: preorderFrom place 0 nodes
  | .text value => [⟨place, .text value⟩]

/-- The traversals of the children at a place, counted from `first`. -/
def preorderFrom (place : Place) (first : Nat) : List Node → List Located
  | [] => []
  | node :: rest =>
    preorderAt ⟨place.copy, place.path ++ [first]⟩ node ++ preorderFrom place (first + 1) rest

end

/-- The recursive traversal of a node. -/
def preorder (located : Located) : List Located := preorderAt located.place located.node

/-! ## Searching -/

/-- The first node in document order that satisfies `pred`. -/
def select? (located : Located) (pred : Node → Bool) : Option Located :=
  located.descendants.find? (pred ·.node)

/-- All nodes that satisfy `pred`, in document order. -/
def selectAll (located : Located) (pred : Node → Bool) : List Located :=
  located.descendants.filter (pred ·.node)

/-- The node of `tree` among whose children `target` stands. -/
def parent? (tree target : Located) : Option Located :=
  tree.descendants.find? (·.children.any (·.same target))

/-- The node that the child indices lead to. -/
def at? (located : Located) : List Nat → Option Located
  | [] => some located
  | i :: rest =>
    match located.children[i]? with
    | some child => child.at? rest
    | none => none

end Located

/-- A tag with an optional id, such as `h2#Constructor`. -/
structure Selector where
  tag : String
  id : Option String
  deriving DecidableEq, Repr

namespace Selector

/-- The node has the tag, and the id when the selector names one. -/
def isMatch (selector : Selector) (node : Node) : Bool :=
  node.isTag selector.tag &&
    match selector.id with
    | some id => node.id? == some id
    | none => true

/-- The selector as it is written. -/
def display (selector : Selector) : String :=
  match selector.id with
  | some id => selector.tag ++ "#" ++ id
  | none => selector.tag

end Selector

end PageRecipe
