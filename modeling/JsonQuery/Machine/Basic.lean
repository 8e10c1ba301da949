import JsonQuery.Json.Descendants
import JsonQuery.Machine.Selection

/-!
The machine that runs programs. It holds a working list of nodes, at first the one where the
run starts. The begin of a block moves the list into the block; the selectors of the block
apply to its nodes one after the other; and at the end of the last round what they have taken
becomes the working list. A block that is met without nodes is skipped.

A step can fail only where a program was never verified.
-/

namespace JsonQuery

structure OpenBlock where
  input : Array Json
  /-- The number of the node that the selectors apply to. -/
  turn : Nat
  output : Array Json
  /-- The first instruction of a round. -/
  body : Nat

def OpenBlock.current? (b : OpenBlock) : Option Json := b.input[b.turn]?

structure State where
  pc : Nat
  /-- The nodes at hand between blocks. -/
  working : Array Json
  /-- The open blocks, innermost first. -/
  blocks : List OpenBlock

def State.initial (start : Json) : State := ⟨0, #[start], []⟩

inductive Fault where
  /-- A selector or an end outside of blocks. -/
  | noBlock
  | noNode
  /-- A selector whose operand is missing, of another kind, or at odds with the selector. -/
  | badOperand
  /-- A jump that leads back. -/
  | noProgress
  deriving DecidableEq

/-- A program ready to run: its instructions, and what they refer to. -/
structure Machine where
  code : Array Instruction
  operands : Array Operand

namespace Machine

def operand? (m : Machine) (instruction : Instruction) : Option Operand :=
  instruction.operand?.bind fun (c, _) => m.operands[c]?

def select (m : Machine) (instruction : Instruction) (s : State) : Except Fault State :=
  match s.blocks with
  | [] => .error .noBlock
  | block :: blocks =>
    match block.current? with
    | none => .error .noNode
    | some node =>
      match instruction.select? (m.operand? instruction) node with
      | none => .error .badOperand
      | some taken =>
        .ok { s with
          pc := s.pc + 1
          blocks := { block with output := block.output ++ taken } :: blocks }

/-- Begins a block, or skips it if there are no nodes. -/
def enter (target : Nat) (s : State) : State :=
  if s.working.isEmpty then { s with pc := target + 1 }
  else ⟨s.pc + 1, #[], ⟨s.working, 0, #[], s.pc + 1⟩ :: s.blocks⟩

/-- Begins the round of the next node, or ends the block. -/
def leave (s : State) : Except Fault State :=
  match s.blocks with
  | [] => .error .noBlock
  | block :: blocks =>
    if block.turn + 1 < block.input.size then
      .ok { s with pc := block.body, blocks := { block with turn := block.turn + 1 } :: blocks }
    -- after the last round, what was taken becomes the working list
    else .ok ⟨s.pc + 1, block.output, blocks⟩

def execute (m : Machine) (instruction : Instruction) (s : State) : Except Fault State :=
  match instruction with
  | .descend =>
    .ok { s with pc := s.pc + 1, working := (Json.descendants s.working.toList).toArray }
  | .blockBegin target => .ok (enter target s)
  | .blockEnd => leave s
  | selector => m.select selector s

/-- Executes the next instruction and names it, unless there is none. -/
def step (m : Machine) (s : State) : Except Fault (Option (Instruction × State)) :=
  match m.code[s.pc]? with
  | none => .ok none
  | some instruction => (m.execute instruction s).map fun s => some (instruction, s)

def atEnd (m : Machine) (s : State) : Bool := m.code.size ≤ s.pc

end Machine
end JsonQuery
