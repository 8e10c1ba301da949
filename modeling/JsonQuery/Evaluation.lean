import JsonQuery.Function.Basic
import JsonQuery.Machine.Run
import JsonQuery.Program.Basic
import JsonQuery.Value.Comparison

/-!
Evaluation of filters, and with it the running of programs. A query within a filter runs a
program of its own, from the root of the document or from the node under test; `&&` and `||`
evaluate their right operand only if the left one leaves the result open.
-/

namespace JsonQuery

/-- The node where a query in a filter starts. -/
def Origin.start (root current : Json) : Origin → Json
  | .root => root
  | .current => current

mutual

def Condition.evaluate (root : Json) : Condition → Json → Value
  | .literal value, _ => .scalar value
  | .query origin program, node => .nodes (program.runFrom root (origin.start root node))
  | .not operand, node => .bool !(operand.evaluate root node).isTrue
  | .and left right, node =>
    .bool ((left.evaluate root node).isTrue && (right.evaluate root node).isTrue)
  | .or left right, node =>
    .bool ((left.evaluate root node).isTrue || (right.evaluate root node).isTrue)
  | .compare op left right, node =>
    .bool (op.compare (left.evaluate root node) (right.evaluate root node))
  | .call _ function args, node => function.evaluate (Condition.evaluateAll root args node)

def Condition.evaluateAll (root : Json) : List Condition → Json → List Value
  | [], _ => []
  | f :: fs, node => f.evaluate root node :: Condition.evaluateAll root fs node

def Constant.operand (root : Json) : Constant → Operand
  | .name key => .name key
  | .index position => .index position
  | .slice numbers => .slice numbers
  | .filter condition => .filter fun node => (condition.evaluate root node).isTrue

def Constant.operands (root : Json) : List Constant → List Operand
  | [] => []
  | c :: cs => c.operand root :: Constant.operands root cs

/-- The nodes that a program selects from a node, in order and with repetitions. `$` in its
filters means the root. -/
def Program.runFrom (root : Json) : Program → Json → List Json
  | ⟨code, constants, _⟩, start =>
    match Machine.run ⟨code.toArray, (Constant.operands root constants).toArray⟩
        (.initial start) with
    | .ok working => working.toList
    -- a program that faults selects nothing
    | .error _ => []

end

def Program.machine (p : Program) (root : Json) : Machine :=
  ⟨p.code.toArray, (Constant.operands root p.constants).toArray⟩

theorem Program.runFrom_eq (root : Json) (p : Program) (start : Json) :
    p.runFrom root start =
      match (p.machine root).run (.initial start) with
      | .ok working => working.toList
      | .error _ => [] := by
  cases p
  rw [runFrom, machine]

def Program.run (p : Program) (document : Json) : List Json := p.runFrom document document

def Program.moves (p : Program) (root start : Json) : List Machine.Move :=
  (p.machine root).moves (.initial start)

/-! ### Lookups of patterns -/

/-- The filter that a step applies, by its number among the constants, and the nodes that it
is applied to. -/
def Machine.Move.tested (move : Machine.Move) : Option (Nat × List Json) :=
  match move.instruction, move.before.blocks with
  | .selectFilter c, block :: _ => block.current?.map fun node => (c, node.children)
  | _, _ => none

mutual

/-- The patterns that the evaluation of a filter looks up, in order. -/
def Condition.lookups (root : Json) : Condition → Json → List String
  | .literal _, _ => []
  | .query origin program, node => program.lookups root (origin.start root node)
  | .not operand, node => operand.lookups root node
  -- the right operand counts only if the left one leaves the result open
  | .and left right, node =>
    left.lookups root node ++
      if (left.evaluate root node).isTrue then right.lookups root node else []
  | .or left right, node =>
    left.lookups root node ++
      if (left.evaluate root node).isTrue then [] else right.lookups root node
  | .compare _ left right, node => left.lookups root node ++ right.lookups root node
  | .call _ function args, node =>
    Condition.lookupsOfAll root args node ++
      function.patterns (Condition.evaluateAll root args node)

def Condition.lookupsOfAll (root : Json) : List Condition → Json → List String
  | [], _ => []
  | f :: fs, node => f.lookups root node ++ Condition.lookupsOfAll root fs node

def Constant.lookups (root : Json) : Constant → Json → List String
  | .filter condition, node => condition.lookups root node
  | _, _ => []

def Constant.lookupsOfAll (root : Json) : List Constant → List (Json → List String)
  | [] => []
  | c :: cs => (fun node => c.lookups root node) :: Constant.lookupsOfAll root cs

def Program.lookups (root : Json) : Program → Json → List String
  | ⟨code, constants, source⟩, start =>
    let lookups := Constant.lookupsOfAll root constants
    (Program.moves ⟨code, constants, source⟩ root start).flatMap fun move =>
      match move.tested with
      | some (c, nodes) => nodes.flatMap (lookups[c]?.getD fun _ => [])
      | none => []

end

end JsonQuery
