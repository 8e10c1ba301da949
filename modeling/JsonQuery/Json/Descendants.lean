import JsonQuery.Json.Basic

/-!
Descendants of nodes. They are listed with a stack of nodes still to be visited, so that the
depth of a document does not matter; the result is the recursive pre-order, each node before
its children.
-/

namespace JsonQuery.Json

/-- Each node on the stack, followed by its descendants: the top is taken off, listed, and
replaced by its children. -/
def descendants : List Json → List Json
  | [] => []
  | node :: stack => node :: descendants (node.children ++ stack)
termination_by stack => nodesOfItems stack
decreasing_by
  have := node.nodes_children
  simp only [nodesOfItems_append, nodesOfItems]
  omega

theorem nodes_lt_of_mem {items : List Json} {j : Json} (h : j ∈ items) :
    j.nodes ≤ nodesOfItems items := by
  induction items with
  | nil => cases h
  | cons item items ih =>
    simp only [nodesOfItems]
    rcases List.mem_cons.1 h with rfl | h
    · omega
    · have := ih h; omega

/-- A node and then, for each child, the pre-order of the child. -/
def preorder (j : Json) : List Json :=
  j :: (j.children.attach.map fun child => preorder child.1).flatten
termination_by j.nodes
decreasing_by
  have := nodes_lt_of_mem child.2
  have := j.nodes_children
  omega

theorem preorder_eq (j : Json) : j.preorder = j :: j.children.flatMap preorder := by
  rw [preorder, List.flatMap_def]
  congr 2
  exact List.map_attach_eq_pmap .. |>.trans (by simp)

/-- Listing with a stack is the recursive pre-order of the nodes on it. -/
theorem descendants_eq (stack : List Json) : descendants stack = stack.flatMap preorder := by
  fun_induction descendants stack with
  | case1 => rfl
  | case2 node stack ih => simp [ih, preorder_eq node]

end JsonQuery.Json
