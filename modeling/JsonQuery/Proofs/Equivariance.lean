import JsonQuery.Proofs.SliceIndices
import JsonQuery.Semantics.Basic

/-!
Changes of documents that selectors go along with: what they take from a changed node is what
they take from the node itself, changed. A change need only respect the members, the elements
and the children of nodes. So do queries, from any root, as long as their filters accept a
changed node if they accept the node.
-/

namespace JsonQuery

/-- A change of documents that respects what is directly below a node. -/
structure Json.Equivariant (φ : Json → Json) : Prop where
  member? (key : String) (j : Json) : (φ j).member? key = (j.member? key).map φ
  elements (j : Json) : (φ j).elements = j.elements.map φ
  children (j : Json) : (φ j).children = j.children.map φ

namespace Json

/-- To change nothing is such a change. -/
lemma equivariant_id : Equivariant id where
  member? _ _ := by simp
  elements _ := by simp
  children _ := by simp

namespace Equivariant

variable {φ : Json → Json} (hφ : Equivariant φ)
include hφ

lemma element? (position : Int) (j : Json) :
    (φ j).element? position = (j.element? position).map φ := by
  simp only [Json.element?, hφ.elements, List.length_map, List.getElem?_map]
  generalize (if position < 0 then position + (j.elements.length : Int) else position) = place
  split_ifs <;> rfl

lemma slice (s : Slice) (j : Json) : s.elements (φ j) = (s.elements j).map φ := by
  rw [s.elements_eq, s.elements_eq, hφ.elements, List.length_map, List.map_filterMap]
  simp only [List.getElem?_map]

lemma preorder (j : Json) : (φ j).preorder = j.preorder.map φ := by
  rw [preorder_eq, preorder_eq j, hφ.children, List.map_cons, List.flatMap_map, List.map_flatMap]
  -- Children come in the order of their names, so the recursion is on the number of nodes.
  refine congrArg (φ j :: ·) (List.flatMap_congr fun child hchild => ?_)
  exact preorder child
termination_by j.nodes
decreasing_by
  have := nodes_lt_of_mem hchild
  have := j.nodes_children
  omega

end Equivariant
end Json

/-- A filter accepts a changed node, from one root, if it accepts the node, from another. -/
def Filter.Respects (r : Registry) (φ : Json → Json) (root' root : Json) (f : Filter) : Prop :=
  ∀ node, (f.value r root' (φ node)).isTrue = (f.value r root node).isTrue

lemma Filter.values_eq_map (r : Registry) (root node : Json) (args : List Filter) :
    Filter.values r root args node = args.map fun arg => arg.value r root node := by
  induction args with
  | nil => rfl
  | cons arg args ih => rw [Filter.values, ih, List.map_cons]

/-! ### Selectors, segments and queries -/

section Select

variable {φ : Json → Json} (hφ : Json.Equivariant φ) {r : Registry} {root root' : Json}
include hφ

lemma Selector.select_map {s : Selector} (hs : ∀ f, s = .filter f → f.Respects r φ root' root)
    (node : Json) : s.select r root' (φ node) = (s.select r root node).map φ := by
  cases s with
  | name key => rw [select, select, hφ.member?, Option.toList_map]
  | index position => rw [select, select, hφ.element?, Option.toList_map]
  | wildcard => rw [select, select, hφ.children]
  | slice s => rw [select, select, hφ.slice]
  | filter f =>
    rw [select, select, hφ.children, List.filter_map]
    exact congrArg _ (List.filter_congr fun child _ => hs f rfl child)

lemma Selector.selectAll_map {ss : List Selector}
    (hss : ∀ f, .filter f ∈ ss → f.Respects r φ root' root) (node : Json) :
    Selector.selectAll r root' ss (φ node) = (Selector.selectAll r root ss node).map φ := by
  induction ss with
  | nil => rfl
  | cons s ss ih =>
    have hs : s.select r root' (φ node) = (s.select r root node).map φ :=
      select_map hφ (fun f hf => hss f (by simp [hf])) node
    rw [selectAll, selectAll, hs, ih fun f hf => hss f (by simp [hf]), List.map_append]

lemma Segment.select_map {s : Segment}
    (hs : ∀ f, .filter f ∈ s.selectors → f.Respects r φ root' root) (nodes : List Json) :
    s.select r root' (nodes.map φ) = (s.select r root nodes).map φ := by
  obtain ⟨descendant, selectors⟩ := s
  have hselectors := Selector.selectAll_map hφ hs
  cases descendant with
  | false => simp [Segment.select, List.flatMap_map, List.map_flatMap, hselectors]
  | true =>
    have hlisted : (nodes.map φ).flatMap Json.preorder = (nodes.flatMap Json.preorder).map φ := by
      rw [List.flatMap_map, List.map_flatMap]
      exact List.flatMap_congr fun node _ => hφ.preorder node
    simp only [Segment.select, if_true, hlisted]
    rw [List.flatMap_map, List.map_flatMap]
    exact List.flatMap_congr fun node _ => hselectors node

/-- **Queries go along with a change** if the filters of their segments do. -/
theorem Segment.selectAll_map {ss : List Segment}
    (hss : ∀ s ∈ ss, ∀ f, .filter f ∈ s.selectors → f.Respects r φ root' root)
    (nodes : List Json) :
    Segment.selectAll r root' ss (nodes.map φ) = (Segment.selectAll r root ss nodes).map φ := by
  induction ss generalizing nodes with
  | nil => rfl
  | cons s ss ih =>
    obtain ⟨hs, hss⟩ := List.forall_mem_cons.1 hss
    rw [Segment.selectAll, Segment.selectAll, Segment.select_map hφ hs, ih hss]

end Select
end JsonQuery
