import JsonQuery.Json.Basic
import JsonQuery.Program.Instruction

/-!
What selectors take from a node, given the constants they refer to.
-/

namespace JsonQuery

namespace Json

/-- The element at an index, which may not leave the array. -/
def item? (items : Array Json) (i : Int) : Option Json :=
  if 0 ≤ i then items[i.toNat]? else none

/-- The elements of a slice; none if its step does not end it, or if it leaves the array. -/
def slice? (o : SliceOpcode) (n : SliceNumbers) (j : Json) : Option (List Json) :=
  let items := j.elements.toArray
  (o.indices? n items.size).bind fun is => is.mapM (item? items)

end Json

/-- A constant as a running program sees it: of a filter, only whether it accepts a node. -/
inductive Operand where
  | name (key : String)
  | index (position : Int)
  | slice (numbers : SliceNumbers)
  | filter (test : Json → Bool)

/-- What a selector takes from a node. It takes nothing at all, not even an empty list, if it
lacks the operand it needs, if that operand leads it out of the node, or if it is no
selector. -/
def Instruction.select? : Instruction → Option Operand → Json → Option (List Json)
  | .selectName _, some (.name key), node => some (node.member? key).toList
  | .selectIndex _, some (.index position), node => some (node.element? position).toList
  | .selectWildcard, _, node => some node.children
  | .selectArrayAll, _, node => some node.elements
  | .slice opcode _, some (.slice numbers), node => node.slice? opcode numbers
  | .sliceEmpty, _, _ => some []
  | .selectFilter _, some (.filter test), node => some (node.children.filter test)
  | _, _, _ => none

end JsonQuery
