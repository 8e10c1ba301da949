import JsonQuery.Function.Basic
import JsonQuery.Json.Descendants
import JsonQuery.Query.Literal
import JsonQuery.Semantics.Slice
import JsonQuery.Value.Comparison

/-!
What queries mean, said by recursion on the query. A selector takes nodes from a node; a
segment takes from each node in turn what its selectors take, one after the other; and a query
applies its segments one after the other. A filter has a value at each node.
-/

namespace JsonQuery

mutual

def Selector.select (r : Registry) (root : Json) : Selector → Json → List Json
  | .name key, node => (node.member? key).toList
  | .index position, node => (node.element? position).toList
  | .wildcard, node => node.children
  | .slice s, node => s.elements node
  | .filter condition, node =>
    node.children.filter fun child => (condition.value r root child).isTrue

def Selector.selectAll (r : Registry) (root : Json) : List Selector → Json → List Json
  | [], _ => []
  | s :: ss, node => s.select r root node ++ Selector.selectAll r root ss node

def Segment.select (r : Registry) (root : Json) : Segment → List Json → List Json
  | ⟨descendant, selectors⟩, nodes =>
    (if descendant then nodes.flatMap Json.preorder else nodes).flatMap
      (Selector.selectAll r root selectors)

/-- What segments take from nodes, each from what the one before it has taken. -/
def Segment.selectAll (r : Registry) (root : Json) : List Segment → List Json → List Json
  | [], nodes => nodes
  | s :: ss, nodes => Segment.selectAll r root ss (s.select r root nodes)

/-- The value of a filter at a node. A call of an unknown function has none. -/
def Filter.value (r : Registry) (root : Json) : Filter → Json → Value
  | .literal value, _ => .scalar value.json
  | .query .root segments, _ => .nodes (Segment.selectAll r root segments [root])
  | .query .current segments, node => .nodes (Segment.selectAll r root segments [node])
  | .not operand, node => .bool !(operand.value r root node).isTrue
  | .binary .and left right, node =>
    .bool ((left.value r root node).isTrue && (right.value r root node).isTrue)
  | .binary .or left right, node =>
    .bool ((left.value r root node).isTrue || (right.value r root node).isTrue)
  | .binary op left right, node =>
    .bool (op.compare (left.value r root node) (right.value r root node))
  | .call name args, node =>
    match r.get? name with
    | some f => f.evaluate (Filter.values r root args node)
    | none => .nothing

def Filter.values (r : Registry) (root : Json) : List Filter → Json → List Value
  | [], _ => []
  | f :: fs, node => f.value r root node :: Filter.values r root fs node

end

/-- The nodes that a query selects, beginning at a node of a document. -/
def Query.nodesFrom (r : Registry) (q : Query) (root start : Json) : List Json :=
  Segment.selectAll r root q [start]

end JsonQuery
