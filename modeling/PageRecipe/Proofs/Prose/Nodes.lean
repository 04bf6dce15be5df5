import PageRecipe.Proofs.Prose.DocumentOrder

/-!
# Nodes without their places

`Node.nodes` lists a node and everything below it in document order. It is the traversal of the
node with the places left out, wherever the node stands (`Located.map_node_preorder`).
-/

namespace PageRecipe

namespace Node

mutual

/-- The node and everything below it, in document order. -/
def nodes : Node → List Node
  | element tag id classes children => element tag id classes children :: nodesOfAll children
  | text value => [text value]

/-- Nodes and everything below them, in document order. -/
def nodesOfAll : List Node → List Node
  | [] => []
  | node :: rest => nodes node ++ nodesOfAll rest

end

theorem nodesOfAll_eq_flatMap (list : List Node) : nodesOfAll list = list.flatMap nodes := by
  induction list with
  | nil => rfl
  | cons node rest ih => rw [nodesOfAll, ih, List.flatMap_cons]

end Node

namespace Located

mutual

theorem map_node_preorderAt : ∀ (place : Place) (node : Node),
    (preorderAt place node).map (·.node) = node.nodes
  | place, .element tag id classes children => by
    rw [preorderAt, List.map_cons, map_node_preorderFrom place 0 children, Node.nodes]
  | place, .text value => by rw [preorderAt, List.map_singleton, Node.nodes]

theorem map_node_preorderFrom : ∀ (place : Place) (first : Nat) (list : List Node),
    (preorderFrom place first list).map (·.node) = Node.nodesOfAll list
  | place, first, [] => by rw [preorderFrom, List.map_nil, Node.nodesOfAll]
  | place, first, node :: rest => by
    rw [preorderFrom, List.map_append, map_node_preorderAt _ node,
      map_node_preorderFrom place (first + 1) rest, Node.nodesOfAll]

end

/-- The place of a node has no part in what stands below it. -/
theorem map_node_preorder (l : Located) : l.preorder.map (·.node) = l.node.nodes :=
  map_node_preorderAt l.place l.node

end Located

end PageRecipe
